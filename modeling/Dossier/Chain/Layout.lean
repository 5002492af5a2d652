import Dossier.Json.Basic

/-!
# Chain — the layout of records

Records extend one another by name.  The layout says which of their fields holds the name, which the
reference to the ancestor, which the ordered content, and which hold tables that are merged key by
key.
-/

namespace Dossier

/-- The roles of a record's fields. -/
structure Layout where
  /-- The record's identity. -/
  name : String
  /-- The reference to the ancestor. -/
  extend : String
  /-- The ordered content. -/
  content : String
  /-- The fields whose tables are merged. -/
  keyed : List String
  deriving DecidableEq

namespace Layout

def standard : Layout := ⟨"name", "extend", "content", ["meta", "style"]⟩

/-- The record's name, if its name field is a string. -/
def nameOf? (l : Layout) (record : Fields Json) : Option String :=
  (Fields.find? record l.name).bind Json.str?

/-- The record's reference to its ancestor, if it has one. -/
def extendOf? (l : Layout) (record : Fields Json) : Option String :=
  (Fields.find? record l.extend).bind Json.str?

def isKeyed (l : Layout) (field : String) : Bool := l.keyed.contains field

/-- What a failure calls the record that refers to an ancestor. -/
def requester (l : Layout) (record : Fields Json) : String :=
  (l.nameOf? record).getD "<anonymous>"

/-- Are name, reference and content three fields, none of them keyed? -/
def Regular (l : Layout) : Prop :=
  l.name ≠ l.extend ∧ l.name ≠ l.content ∧ l.extend ≠ l.content
    ∧ l.name ∉ l.keyed ∧ l.extend ∉ l.keyed ∧ l.content ∉ l.keyed

instance (l : Layout) : Decidable l.Regular := by
  unfold Regular
  infer_instance

theorem standard_regular : standard.Regular := by decide

end Layout

end Dossier
