import Dossier.Json.Basic

/-!
# Schema — what a record may look like

A schema names an entity and lists its properties in order.  A property accepts the values of any
of its variants, or, as an array, lists of such values; the variant `absent` lets a record leave
the property out.  A variant may nest another entity, either the schema itself or a name that is
looked up when a value is checked, so that schemas can be recursive.
-/

namespace Dossier

mutual

/-- One shape that a property's value may have. -/
inductive Variant where
  | string
  | number
  /-- A number without a fraction. -/
  | integer
  | boolean
  /-- Any value at all. -/
  | json
  | null
  /-- The property may be left out. -/
  | absent
  /-- A closed set of values under a name. -/
  | enumeration (name : String) (members : List Json)
  | entity (schema : Schema)
  /-- An entity known by the name it is registered under. -/
  | reference (name : String)

/-- A named property with the shapes its value, or each item of it, may have. -/
inductive Property where
  | mk (name : String) (variants : List Variant) (isArray : Bool)

/-- An entity's name and properties.  The serial number tells schemas apart that were declared
separately. -/
inductive Schema where
  | mk (serial : Nat) (name : String) (properties : List Property)

end

namespace Variant

def isAbsent : Variant → Bool
  | .absent => true
  | _ => false

end Variant

namespace Schema

def serial : Schema → Nat
  | .mk serial _ _ => serial

def name : Schema → String
  | .mk _ name _ => name

def properties : Schema → List Property
  | .mk _ _ properties => properties

/-- The name of the schema's records in explanations. -/
def dtoName (s : Schema) : String := s.name ++ "DTO"

end Schema

namespace Variant

/-- The variant's name in explanations. -/
def label : Variant → String
  | .string => "string"
  | .number => "number"
  | .integer => "integer"
  | .boolean => "boolean"
  | .json => "json"
  | .null => "null"
  | .absent => "absent"
  | .enumeration name _ => name
  | .entity schema => schema.dtoName
  | .reference name => name ++ "DTO"

/-- The variants' names as an explanation lists them. -/
def labels (variants : List Variant) : String := String.intercalate " or " (variants.map label)

end Variant

namespace Property

def name : Property → String
  | .mk name _ _ => name

def variants : Property → List Variant
  | .mk _ variants _ => variants

def isArray : Property → Bool
  | .mk _ _ isArray => isArray

/-- May a record leave the property out? -/
def isOptional (p : Property) : Bool := p.variants.any Variant.isAbsent

/-- The shapes of a value that is there. -/
def present (p : Property) : List Variant := p.variants.filter fun v => ! v.isAbsent

/-- The property, but a record may leave it out. -/
def optional (p : Property) : Property :=
  if p.isOptional then p else .mk p.name (p.variants ++ [.absent]) p.isArray

/-- What an explanation says the property expects. -/
def expected (p : Property) : String :=
  if p.isArray then "array of " ++ Variant.labels p.present else Variant.labels p.present

section Accessors

-- how a name is put in the case of accessors
variable (convert : String → String)

/-- The property's name among accessors. -/
def aliasName (p : Property) : String := convert p.name

def getterName (p : Property) : String := "get_" ++ p.aliasName convert

def setterName (p : Property) : String := "set_" ++ p.aliasName convert

end Accessors

end Property

namespace Schema

/-- The names of the properties, in order. -/
def propertyNames (s : Schema) : List String := s.properties.map Property.name

/-- The property of the given name. -/
def property? (s : Schema) (name : String) : Option Property :=
  s.properties.find? fun p => p.name = name

/-- The place of a property among the others, the first being at zero. -/
def position? (s : Schema) (name : String) : Option Nat :=
  s.properties.findIdx? fun p => p.name = name

/-- Is there a property of the given name? -/
def declares (s : Schema) (name : String) : Bool := (s.property? name).isSome

end Schema

end Dossier
