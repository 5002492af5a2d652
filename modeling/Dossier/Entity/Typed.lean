import Dossier.Entity.Update

/-!
# Entity — typed entities

Entities of a schema that is fixed once, with their properties read and written through fields of
fixed types.

`Typed.ofEntity` takes over an entity that was made for the very same schema without another check,
and checks the record of any other.
-/

namespace Dossier

/-- A property's key together with the type of its values. -/
structure Field (α : Type) where
  key : String

/-- An entity of the given schema. -/
structure Typed (schema : Schema) where
  entity : Entity

namespace Typed

variable {schema : Schema} (registry : Registry)

def create (mode : Mode) : Typed schema := ⟨Entity.create registry schema mode⟩

def ofDto (dto : Json) (mode : Mode) : Except EntityError (Typed schema) :=
  (Entity.ofDto registry schema dto mode).map Typed.mk

def merge (sources : List Candidate) (mode : Mode) : Except EntityError (Typed schema) :=
  (Entity.merge registry schema sources mode).map Typed.mk

/-- The entity as one of the given schema: as it is when it was made for that schema, and otherwise
if its record is one of that schema in the entity's own mode. -/
def ofEntity (e : Entity) : Except EntityError (Typed schema) :=
  if e.schema.serial = schema.serial then .ok ⟨e⟩ else ofDto registry e.dto e.mode

/-- The value of a field, if it is set and of the field's type. -/
def get? {α : Type} [Codec α] (t : Typed schema) (field : Field α) : Option α :=
  t.entity.getAs? α field.key

def set {α : Type} [Codec α] (t : Typed schema) (field : Field α) (value : α) :
    Except EntityError (Typed schema) :=
  (t.entity.setAs registry field.key value).map Typed.mk

def unset {α : Type} (t : Typed schema) (field : Field α) : Except EntityError (Typed schema) :=
  (t.entity.unset field.key).map Typed.mk

end Typed

end Dossier
