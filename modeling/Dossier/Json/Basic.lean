import Dossier.Fields
import Dossier.Number.Basic

/-!
# Json — values

A value is null, a boolean, a number, a string, an array or an object.  An object keeps its keys in
the order they were written.

`Json.WellFormed` says that no object in a value names a key twice.  Reading keeps to it, and every
operation on records keeps it.
-/

namespace Dossier

inductive Json where
  | null
  | bool (value : Bool)
  | num (value : Number)
  | str (value : String)
  | arr (items : List Json)
  | obj (fields : List (String × Json))

namespace Json

instance : Inhabited Json := ⟨.null⟩

/-- The name of the value's kind. -/
def kind : Json → String
  | .null => "null"
  | .bool _ => "boolean"
  | .num _ => "number"
  | .str _ => "string"
  | .arr _ => "array"
  | .obj _ => "object"

/-- The text, of a string. -/
def str? : Json → Option String
  | .str s => some s
  | _ => none

/-- The entries, of an object. -/
def obj? : Json → Option (Fields Json)
  | .obj fields => some fields
  | _ => none

/-- The items, of an array. -/
def arr? : Json → Option (List Json)
  | .arr items => some items
  | _ => none

/-- The integer zero. -/
def zero : Json := .num .zero

mutual

/-- No object in the value names a key twice. -/
def WellFormed : Json → Prop
  | .arr items => WellFormedItems items
  | .obj fields => Fields.Nodup fields ∧ WellFormedFields fields
  | _ => True

/-- Every item is well formed. -/
def WellFormedItems : List Json → Prop
  | [] => True
  | v :: rest => WellFormed v ∧ WellFormedItems rest

/-- Every value of the table is well formed. -/
def WellFormedFields : List (String × Json) → Prop
  | [] => True
  | (_, v) :: rest => WellFormed v ∧ WellFormedFields rest

end

theorem wellFormedItems_iff (items : List Json) :
    WellFormedItems items ↔ ∀ v ∈ items, WellFormed v := by
  induction items with
  | nil => simp [WellFormedItems]
  | cons v rest ih => simp [WellFormedItems, ih]

theorem wellFormedFields_iff (fields : List (String × Json)) :
    WellFormedFields fields ↔ ∀ e ∈ fields, WellFormed e.2 := by
  induction fields with
  | nil => simp [WellFormedFields]
  | cons e rest ih => simp [WellFormedFields, ih]

end Json

end Dossier
