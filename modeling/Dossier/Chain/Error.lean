import Dossier.Url.Error

/-!
# Chain — failures

Why a document cannot be fetched, and why a chain of records cannot be resolved.  Every failure met
along a chain names the reference and the record it stands in.
-/

namespace Dossier

/-- Why a document cannot be fetched. -/
inductive FetchError where
  | transport (url cause : String)
  | status (url : String) (code : Nat)
  | decode (url reason : String)
  deriving DecidableEq

def FetchError.message : FetchError → String
  | .transport url cause => "request to " ++ url ++ " failed: " ++ cause
  | .status url code => "request to " ++ url ++ " returned status " ++ toString code
  | .decode url reason => "response from " ++ url ++ " is not JSON: " ++ reason

inductive ResolveError where
  | notAnObject (kind : String)
  /-- A record for the pool without a name. -/
  | unnamed (position : Nat) (field : String)
  | unknownRecord (name : String)
  /-- The reference is neither a pool member nor a built-in nor a remote one. -/
  | missing (reference requester : String)
  | cycle (chain : List String)
  | tooDeep (reference requester : String) (limit : Nat)
  /-- A remote reference, but nothing to fetch it with. -/
  | remoteUnsupported (reference requester : String)
  | invalidUrl (reference requester : String) (cause : UrlError)
  | fetch (reference requester : String) (cause : FetchError)
  /-- A fetched document that the schema refuses. -/
  | invalidRemote (reference requester entity explanation : String)
  deriving DecidableEq

def ResolveError.message : ResolveError → String
  | .notAnObject kind => "expected a record object, got " ++ kind
  | .unnamed position field =>
    "record at position " ++ toString position ++ " has no string \"" ++ field ++ "\" field"
  | .unknownRecord name => "no record named \"" ++ name ++ "\" in the pool"
  | .missing reference requester =>
    "record \"" ++ requester ++ "\" extends \"" ++ reference
      ++ "\", which is neither a known record nor a built-in"
  | .cycle chain => "extend cycle: " ++ String.intercalate " -> " chain
  | .tooDeep reference requester limit =>
    "record \"" ++ requester ++ "\" extends \"" ++ reference ++ "\" more than " ++ toString limit
      ++ " levels deep"
  | .remoteUnsupported reference requester =>
    "record \"" ++ requester ++ "\" extends remote \"" ++ reference
      ++ "\", which needs a remote resolver"
  | .invalidUrl reference requester cause =>
    "record \"" ++ requester ++ "\" extends \"" ++ reference ++ "\", which is not a valid URL: "
      ++ cause.message
  | .fetch reference requester cause =>
    "record \"" ++ requester ++ "\" extends \"" ++ reference ++ "\": " ++ cause.message
  | .invalidRemote reference requester entity explanation =>
    "record \"" ++ requester ++ "\" extends \"" ++ reference
      ++ "\": remote payload is not a valid " ++ entity ++ ":\n" ++ explanation

end Dossier
