import Dossier.Schema.Guard

/-!
# Schema — explanations

`Schema.explain` says why a value is not a record of a schema, a line for each fault: first the
keys that are not declared, then the properties in their order.  Under a property that names nested
entities stand the faults of each of them, indented.

The explanation is made by a walk like the guard's that goes on after a fault and collects lines; a
`Report` is its verdict together with them.  Of a list only the first item that fits no variant is
described.
-/

namespace Dossier

/-- What a check found: its verdict, and the faults it describes. -/
structure Report where
  ok : Bool
  lines : List String
  deriving DecidableEq

namespace Report

def passed : Report := ⟨true, []⟩

def failed (lines : List String) : Report := ⟨false, lines⟩

/-- The findings of several checks, all of which must pass. -/
def all (reports : List Report) : Report :=
  ⟨reports.all (·.ok), reports.flatMap (·.lines)⟩

/-- The findings about a nested record as they stand under the property that nests it. -/
def nest (s : Schema) (r : Report) : Report :=
  if r.ok then passed
  else failed (("  " ++ s.dtoName ++ ":") :: r.lines.map ("    " ++ ·))

end Report

namespace Variant

/-- The line about a reference to a name that is not registered. -/
def unknownLines (registry : Registry) : Variant → List String
  | .reference name =>
    if registry.contains name then [] else ["  unknown entity type \"" ++ name ++ "\""]
  | _ => []

/-- The finding about a value that is no record of a nested entity. -/
def reportPlain (registry : Registry) (v : Json) (w : Variant) : Report :=
  ⟨w.fitsPlain v, w.unknownLines registry⟩

end Variant

namespace Schema

/-- The finding about keys that the schema does not declare. -/
def reportKeys (mode : Mode) (s : Schema) (fields : Fields Json) : Report :=
  if s.keysPass mode fields then .passed
  else .failed ["extra properties: " ++ String.intercalate ", " (s.extraKeys fields)]

end Schema

namespace Property

/-- How an explanation names the property, or one of its items. -/
def location (p : Property) : Option Nat → String
  | none => "property \"" ++ p.name ++ "\""
  | some index => "property \"" ++ p.name ++ "\" index " ++ toString index

/-- The finding about a value, or an item at a place, given those of the single variants. -/
def reportElement (p : Property) (index : Option Nat) (v : Json) (reports : List Report) : Report :=
  if reports.any (·.ok) then .passed
  else .failed ((p.location index ++ ": expected " ++ Variant.labels p.present ++ ", got " ++ v.kind)
    :: reports.flatMap (·.lines))

/-- The finding about a record without the property. -/
def reportMissing (p : Property) : Report :=
  if p.isOptional then .passed
  else .failed ["property \"" ++ p.name ++ "\" is missing; expected " ++ p.expected]

/-- The finding about a value of an array property that is no array. -/
def reportNoArray (p : Property) (v : Json) : Report :=
  .failed ["property \"" ++ p.name ++ "\": expected " ++ p.expected ++ ", got " ++ v.kind]

end Property

namespace Inspection

variable (registry : Registry) (mode : Mode)

mutual

/-- The finding about a value as a variant. -/
def inspect : Json → Variant → Report
  | .obj fields, w =>
    match w.nested? registry with
    | some s =>
      (Report.all (s.reportKeys mode fields :: s.properties.map fun p => inspectIn fields p)).nest s
    | none => w.reportPlain registry (.obj fields)
  | v, w => w.reportPlain registry v

/-- The finding about a value as an array property. -/
def inspectArray : Json → Property → Report
  | .arr items, p => inspectItems 0 items p
  | v, p => p.reportNoArray v

/-- The finding about the items of an array, the first of which is at the given place. -/
def inspectItems : Nat → List Json → Property → Report
  | _, [], _ => .passed
  | index, v :: rest, p =>
    if p.present.any fun w => w.fits registry mode v then inspectItems (index + 1) rest p
    else ⟨false, (p.reportElement (some index) v (p.present.map fun w => inspect v w)).lines⟩

/-- The finding about the entry under the property's name. -/
def inspectIn : List (String × Json) → Property → Report
  | [], p => p.reportMissing
  | (k, v) :: rest, p =>
    if k = p.name then
      if p.isArray then inspectArray v p
      else p.reportElement none v (p.present.map fun w => inspect v w)
    else inspectIn rest p

end

end Inspection

namespace Variant

/-- The finding about a value as a variant. -/
def report (registry : Registry) (mode : Mode) (w : Variant) (v : Json) : Report :=
  Inspection.inspect registry mode v w

end Variant

namespace Property

/-- The finding about the value under a property, or about there being none. -/
def report (registry : Registry) (mode : Mode) (p : Property) : Option Json → Report
  | none => p.reportMissing
  | some v =>
    if p.isArray then Inspection.inspectArray registry mode v p
    else p.reportElement none v (p.present.map fun w => w.report registry mode v)

end Property

namespace Schema

/-- The finding about a table as a record of the schema. -/
def reportFields (registry : Registry) (mode : Mode) (s : Schema) (fields : Fields Json) : Report :=
  .all (s.reportKeys mode fields
    :: s.properties.map fun p => p.report registry mode (Fields.find? fields p.name))

/-- The finding about a value as a record of the schema. -/
def report (registry : Registry) (mode : Mode) (s : Schema) : Json → Report
  | .obj fields => s.reportFields registry mode fields
  | v => .failed ["expected " ++ s.dtoName ++ " object, got " ++ v.kind]

/-- The text for a value that is as it should be. -/
def explainOk : String := "OK"

/-- Why the value is not a record of the schema, a line for each fault, or `explainOk`. -/
def explain (registry : Registry) (mode : Mode) (s : Schema) (v : Json) : String :=
  let r := s.report registry mode v
  if r.ok then explainOk else String.intercalate "\n" r.lines

end Schema

namespace Inspection

variable (registry : Registry) (mode : Mode)

theorem inspectIn_eq (fields : List (String × Json)) (p : Property) :
    inspectIn registry mode fields p = p.report registry mode (Fields.find? fields p.name) := by
  induction fields with
  | nil => simp [inspectIn, Fields.find?, Property.report]
  | cons e rest ih =>
    obtain ⟨k, v⟩ := e
    by_cases h : k = p.name
    · simp [inspectIn, Fields.find?, Property.report, Variant.report, h]
    · simp [inspectIn, Fields.find?, h, ih]

end Inspection

end Dossier
