import Dossier.Url.Host

/-!
# Url — absolute URLs

A URL has a scheme, perhaps an authority, a path, and perhaps a query and a fragment.  The special
schemes are those of the web, each with a default number for the service, and `file`; all their URLs
have an authority, and a path that starts with a slash.  All parts are kept as they are written, so
that the text of a URL is its parts put together.

These URLs are one kind among others (`Urls`), and the one that programs are run with.  Nothing that
is said of chains in general depends on them.
-/

namespace Dossier

/-- How the URLs of a scheme are read. -/
inductive SchemeKind where
  | web
  | file
  | other
  deriving DecidableEq

/-- What stands between the double slash and the path. -/
structure Authority where
  username : String
  password : Option String
  host : Host
  /-- The number after the host's colon. -/
  portNumber : Option Nat
  deriving DecidableEq

inductive UrlPath where
  /-- A text without structure, to which nothing can be relative. -/
  | flat (text : String)
  /-- Segments, a slash standing before each. -/
  | listed (segments : List String)
  deriving DecidableEq

structure Url where
  scheme : String
  authority : Option Authority
  path : UrlPath
  query : Option String
  fragment : Option String
  deriving DecidableEq

namespace SchemeKind

def ofScheme (scheme : String) : SchemeKind :=
  if scheme = "http" ∨ scheme = "https" ∨ scheme = "ws" ∨ scheme = "wss" ∨ scheme = "ftp" then .web
  else if scheme = "file" then .file
  else .other

/-- Special schemes take a backslash for a slash. -/
def isSpecial (kind : SchemeKind) : Bool := kind ≠ .other

/-- Does the character end a segment? -/
def isSlash (kind : SchemeKind) (c : Char) : Bool := c = '/' || (kind.isSpecial && c = '\\')

end SchemeKind

/-- The number after the host that a scheme's URLs leave out. -/
def defaultPortNumber? (scheme : String) : Option Nat :=
  if scheme = "http" ∨ scheme = "ws" then some 80
  else if scheme = "https" ∨ scheme = "wss" then some 443
  else if scheme = "ftp" then some 21
  else none

def Authority.text (a : Authority) : String :=
  let password := match a.password with
    | some p => ":" ++ p
    | none => ""
  let user := a.username ++ password
  let number := match a.portNumber with
    | some n => ":" ++ toString n
    | none => ""
  (if user = "" then "" else user ++ "@") ++ a.host.text ++ number

def UrlPath.text : UrlPath → String
  | .flat text => text
  | .listed segments => String.join (segments.map ("/" ++ ·))

namespace Url

/-- The text of a URL. Without an authority a path must not start with a double slash, so a dot
segment goes before one that does. -/
def text (u : Url) : String :=
  let path := u.path.text
  let authority := match u.authority with
    | some a => "//" ++ a.text
    | none => if path.startsWith "//" then "/." else ""
  let query := match u.query with
    | some q => "?" ++ q
    | none => ""
  let fragment := match u.fragment with
    | some f => "#" ++ f
    | none => ""
  u.scheme ++ ":" ++ authority ++ path ++ query ++ fragment

end Url

end Dossier
