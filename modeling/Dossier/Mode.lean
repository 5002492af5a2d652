import Dossier.Json.Basic
import Dossier.Text.Blank
import Dossier.Text.LetterCase

/-!
# Mode — how strictly a record is checked

The two modes differ in one thing: development refuses keys that a schema does not declare, and
production lets them pass, so that a record written against a newer schema still fits an older one.
-/

namespace Dossier

inductive Mode where
  | development
  | production
  deriving DecidableEq, Repr

/-- A text that names no mode. -/
structure UnknownMode where
  text : String
  deriving DecidableEq

def UnknownMode.message (e : UnknownMode) : String :=
  "unknown validation mode \"" ++ e.text ++ "\""

namespace Mode

/-- The mode where none is chosen. -/
def standard : Mode := .development

/-- Are keys that the schema does not declare an error? -/
def rejectsExtraKeys : Mode → Bool
  | .development => true
  | .production => false

def name : Mode → String
  | .development => "development"
  | .production => "production"

/-- Reads a mode's name or a short form of it; white space around it and the case of ASCII letters
do not matter. -/
def parse (text : String) : Except UnknownMode Mode :=
  let word := String.ofList (Text.asciiLower (Text.trimmed text.toList))
  if word = "development" ∨ word = "dev" ∨ word = "test" then .ok .development
  else if word = "production" ∨ word = "prod" then .ok .production
  else .error ⟨text⟩

/-- The mode of a setting that may be missing; an unknown name counts as missing. -/
def ofSetting : Option String → Mode
  | none => standard
  | some text =>
    match parse text with
    | .ok mode => mode
    | .error _ => standard

/-- The mode whose full name this is. -/
def ofName? (name : String) : Option Mode :=
  if name = "development" then some .development
  else if name = "production" then some .production
  else none

def toJson (mode : Mode) : Json := .str mode.name

/-- The mode that a value stands for: its full name, or an object with that name as its only key
and null under it. -/
def ofJson? : Json → Option Mode
  | .str name => ofName? name
  | .obj [(name, .null)] => ofName? name
  | _ => none

theorem ofName?_name (mode : Mode) : ofName? mode.name = some mode := by
  cases mode <;> decide

theorem ofJson?_toJson (mode : Mode) : ofJson? mode.toJson = some mode := ofName?_name mode

end Mode

end Dossier
