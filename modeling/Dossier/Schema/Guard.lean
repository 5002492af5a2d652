import Dossier.Mode
import Dossier.Json.Equality
import Dossier.Schema.Registry

/-!
# Schema — the guard

`Schema.accepts` decides whether a value is a record of a schema.  The walk follows the value: a
nested entity is looked for in the part of the value that stands under the property, so references
may form any cycles and the walk still ends.

The walk is written over values, items and entries.  What it decides is said by three equations:

* `Variant.fits_eq`: a value fits a variant that nests an entity when that entity's schema accepts
  it, and any other variant by its kind;
* `holdsIn_eq`: a property holds of the value under its name, or may be left out;
* `itemsFit_eq`: a list fits when each item fits one of the variants.
-/

namespace Dossier

namespace Variant

/-- Is the value a member, numbers being compared by value? -/
def hasMember (members : List Json) (v : Json) : Bool :=
  members.any fun member =>
    match member, v with
    | .num m, .num n => m.agrees n
    | _, _ => member.equal v

/-- Does the value have the shape of a variant that nests no entity? -/
def fitsPlain : Json → Variant → Bool
  | _, .json => true
  | .str _, .string => true
  | .num _, .number => true
  | .num n, .integer => n.isWhole
  | .bool _, .boolean => true
  | .null, .null => true
  | v, .enumeration _ members => hasMember members v
  | _, _ => false

/-- The schema of a variant that nests an entity, unless it refers to a name that is not
registered. -/
def nested? (registry : Registry) : Variant → Option Schema
  | .entity schema => some schema
  | .reference name => registry.get? name
  | _ => none

end Variant

namespace Schema

/-- The keys that the schema does not declare, in the order of the table. -/
def extraKeys (s : Schema) (fields : Fields Json) : List String :=
  (Fields.keys fields).filter fun key => ! s.declares key

/-- Are the table's keys all declared, or does the mode not mind? -/
def keysPass (mode : Mode) (s : Schema) (fields : Fields Json) : Bool :=
  ! mode.rejectsExtraKeys || (s.extraKeys fields).isEmpty

end Schema

namespace Guard

variable (registry : Registry) (mode : Mode)

mutual

/-- Does the value have the shape of the variant? -/
def fits : Json → Variant → Bool
  | .obj fields, w =>
    match w.nested? registry with
    | some s => s.keysPass mode fields && s.properties.all fun p => holdsIn fields p
    | none => w.fitsPlain (.obj fields)
  | v, w => w.fitsPlain v

/-- Is the value a list each of whose items has one of the shapes? -/
def arrayFits : Json → List Variant → Bool
  | .arr items, variants => itemsFit items variants
  | _, _ => false

/-- Does each item have one of the shapes? -/
def itemsFit : List Json → List Variant → Bool
  | [], _ => true
  | v :: rest, variants => (variants.any fun w => fits v w) && itemsFit rest variants

/-- Does the property hold of the entry under its name? -/
def holdsIn : List (String × Json) → Property → Bool
  | [], p => p.isOptional
  | (k, v) :: rest, p =>
    if k = p.name then
      if p.isArray then arrayFits v p.present else p.present.any fun w => fits v w
    else holdsIn rest p

end

end Guard

namespace Variant

/-- Does the value have the shape of the variant? -/
def fits (registry : Registry) (mode : Mode) (w : Variant) (v : Json) : Bool :=
  Guard.fits registry mode v w

end Variant

namespace Property

/-- Does the value that is there have the shape of the property? -/
def fits (registry : Registry) (mode : Mode) (p : Property) (v : Json) : Bool :=
  if p.isArray then Guard.arrayFits registry mode v p.present
  else p.present.any fun w => w.fits registry mode v

/-- Does the property hold of the value under it, or of there being none? -/
def holds (registry : Registry) (mode : Mode) (p : Property) : Option Json → Bool
  | none => p.isOptional
  | some v => p.fits registry mode v

end Property

namespace Schema

/-- Is the table a record of the schema? -/
def acceptsFields (registry : Registry) (mode : Mode) (s : Schema) (fields : Fields Json) : Bool :=
  s.keysPass mode fields
    && s.properties.all fun p => p.holds registry mode (Fields.find? fields p.name)

/-- Is the value a record of the schema? -/
def accepts (registry : Registry) (mode : Mode) (s : Schema) : Json → Bool
  | .obj fields => s.acceptsFields registry mode fields
  | _ => false

end Schema

namespace Guard

variable (registry : Registry) (mode : Mode)

theorem itemsFit_eq (items : List Json) (variants : List Variant) :
    itemsFit registry mode items variants
      = items.all fun v => variants.any fun w => w.fits registry mode v := by
  induction items with
  | nil => simp [itemsFit]
  | cons v rest ih => simp [itemsFit, ih, Variant.fits]

theorem holdsIn_eq (fields : List (String × Json)) (p : Property) :
    holdsIn registry mode fields p = p.holds registry mode (Fields.find? fields p.name) := by
  induction fields with
  | nil => simp [holdsIn, Fields.find?, Property.holds]
  | cons e rest ih =>
    obtain ⟨k, v⟩ := e
    by_cases h : k = p.name
    · simp [holdsIn, Fields.find?, Property.holds, Property.fits, Variant.fits, h]
    · simp [holdsIn, Fields.find?, h, ih]

end Guard

namespace Variant

variable (registry : Registry) (mode : Mode)

/-- A variant that nests an entity has the shape of that entity's records, any other its own. -/
theorem fits_eq (w : Variant) (v : Json) :
    w.fits registry mode v
      = match w.nested? registry with
        | some s => s.accepts registry mode v
        | none => w.fitsPlain v := by
  cases v with
  | obj fields =>
    cases h : w.nested? registry <;>
      simp [fits, Guard.fits, h, Schema.accepts, Schema.acceptsFields, Guard.holdsIn_eq]
  | _ =>
    cases w with
    | reference name =>
      cases h : registry.get? name <;> simp [fits, Guard.fits, nested?, fitsPlain, Schema.accepts, h]
    | _ => simp [fits, Guard.fits, nested?, fitsPlain, Schema.accepts]

end Variant

end Dossier
