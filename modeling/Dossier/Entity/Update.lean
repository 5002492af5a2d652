import Dossier.Entity.Build
import Dossier.Entity.Codec

/-!
# Entity — changing entities

A property is set to a value that its declaration accepts, or unset when it may be left out.  A
change that fails leaves no entity behind, so the one before it stays as it is.

A property that is written for the first time finds its place among the declared ones; keys that
are not declared, which production tolerates, come after them.
-/

namespace Dossier

namespace Entity

/-- The declaration of a property. -/
def declared (e : Entity) (property : String) : Except EntityError Property :=
  match e.schema.property? property with
  | some p => .ok p
  | none => .error (.unknownProperty e.schema.name property)

/-- The entity with a property's value replaced, if the property accepts the value. -/
def set (registry : Registry) (e : Entity) (property : String) (value : Json) :
    Except EntityError Entity := do
  let p ← e.declared property
  let r := p.report registry e.mode (some value)
  if r.ok then
    .ok { e with record := Fields.insertInOrder e.schema.propertyNames e.record property value }
  else .error (.invalidProperty e.schema.name property (String.intercalate "\n" r.lines))

/-- The entity with a property set to a typed value. -/
def setAs {α : Type} [Codec α] (registry : Registry) (e : Entity) (property : String) (value : α) :
    Except EntityError Entity :=
  match Codec.encode value with
  | .error cause => .error (.notEncoded e.schema.name property cause)
  | .ok v => e.set registry property v

/-- The value of a property at a type, if it is there and is of that type. -/
def getAs? (α : Type) [Codec α] (e : Entity) (property : String) : Option α :=
  (e.get? property).bind Codec.decode

/-- The entity without a property, if a record may leave it out. -/
def unset (e : Entity) (property : String) : Except EntityError Entity := do
  let p ← e.declared property
  if p.isOptional then .ok { e with record := Fields.erase e.record property }
  else .error (.requiredProperty e.schema.name property)

/-- Sets a value that is there and unsets one that is not. -/
def setOptional (registry : Registry) (e : Entity) (property : String) :
    Option Json → Except EntityError Entity
  | some value => e.set registry property value
  | none => e.unset property

end Entity

end Dossier
