import Dossier.Url.Error

/-!
# Url — kinds of URLs

How a URL is read, and what it is made of, is left open.  All that is asked of a kind of URLs is the
text of each, and the URL of a reference: relative to a base, or by itself.

Nothing is assumed of the two.  Where URLs must be told apart by their texts, that is a hypothesis.
-/

namespace Dossier

/-- A kind of URLs. -/
class Urls (U : Type) where
  /-- The URL as it is written. -/
  text : U → String
  /-- The URL of a reference, relative to the base if there is one. -/
  join : Option U → String → Except UrlError U

end Dossier
