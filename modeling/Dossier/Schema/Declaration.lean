import Dossier.Schema.Basic

/-!
# Schema — declarations

A declaration becomes a schema when the entity and all its properties have names, no two properties
share one, every property has a variant and no enumeration is empty.  Otherwise the first property
that breaks a rule is reported, its own faults before a name it repeats.
-/

namespace Dossier

/-- Why a declaration is refused. -/
inductive SchemaError where
  | emptyEntityName
  | emptyPropertyName (entity : String)
  | duplicateProperty (entity property : String)
  | noVariants (entity property : String)
  | emptyEnumeration (entity property enumeration : String)
  deriving DecidableEq

def SchemaError.message : SchemaError → String
  | .emptyEntityName => "entity name must not be empty"
  | .emptyPropertyName entity => entity ++ ": property name must not be empty"
  | .duplicateProperty entity property =>
    entity ++ ": duplicate property \"" ++ property ++ "\""
  | .noVariants entity property =>
    entity ++ ": property \"" ++ property ++ "\" declares no variants"
  | .emptyEnumeration entity property enumeration =>
    entity ++ ": property \"" ++ property ++ "\" uses empty enumeration \"" ++ enumeration ++ "\""

/-- The name of an enumeration without members. -/
def Variant.emptyEnumeration? : Variant → Option String
  | .enumeration name [] => some name
  | _ => none

/-- A property's own fault, if it has one. -/
def Property.fault? (entity : String) (p : Property) : Option SchemaError :=
  if p.name = "" then some (.emptyPropertyName entity)
  else if p.variants.isEmpty then some (.noVariants entity p.name)
  else (p.variants.findSome? Variant.emptyEnumeration?).map (.emptyEnumeration entity p.name)

namespace Schema

/-- The first fault among properties that follow ones with the names `seen`. -/
def fault? (entity : String) (seen : List String) : List Property → Option SchemaError
  | [] => none
  | p :: rest =>
    match p.fault? entity with
    | some fault => some fault
    | none =>
      if p.name ∈ seen then some (.duplicateProperty entity p.name)
      else fault? entity (p.name :: seen) rest

/-- The schema of a declaration, under the given serial number. -/
def declare (serial : Nat) (name : String) (properties : List Property) :
    Except SchemaError Schema :=
  if name = "" then .error .emptyEntityName
  else match fault? name [] properties with
    | some fault => .error fault
    | none => .ok (.mk serial name properties)

end Schema

end Dossier
