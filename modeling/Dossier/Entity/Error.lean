/-!
# Entity — failures

Why an entity cannot be made or changed.  A failure stands where an invalid record would otherwise
have become an entity.
-/

namespace Dossier

/-- Why a typed value has no record form. -/
inductive EncodeError where
  /-- A table's key is no text. -/
  | keyNotText
  deriving DecidableEq

def EncodeError.message : EncodeError → String
  | .keyNotText => "key must be a string"

inductive EntityError where
  | invalidDto (entity explanation : String)
  | unknownProperty (entity property : String)
  | invalidProperty (entity property explanation : String)
  | requiredProperty (entity property : String)
  | notEncoded (entity property : String) (cause : EncodeError)
  deriving DecidableEq

def EntityError.message : EntityError → String
  | .invalidDto entity explanation =>
    "value is not a valid " ++ entity ++ "DTO:\n" ++ explanation
  | .unknownProperty entity property => entity ++ " has no property \"" ++ property ++ "\""
  | .invalidProperty entity property explanation =>
    entity ++ "." ++ property ++ ": " ++ explanation
  | .requiredProperty entity property =>
    entity ++ "." ++ property ++ " is required and cannot be unset"
  | .notEncoded entity property cause =>
    entity ++ "." ++ property ++ ": cannot encode value: " ++ cause.message

end Dossier
