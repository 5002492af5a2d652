import Dossier.Mode
import Dossier.Json.Equality
import Dossier.Schema.Basic

/-!
# Entity — a record with its schema and mode

An entity holds one record, the schema it was made for and the mode in which it is checked.
-/

namespace Dossier

structure Entity where
  schema : Schema
  record : Fields Json
  mode : Mode

namespace Entity

/-- The record as a value. -/
def dto (e : Entity) : Json := .obj e.record

/-- The value under a property. -/
def get? (e : Entity) (property : String) : Option Json := Fields.find? e.record property

/-- Entities are equal when their schemas have one name and their records are equal. -/
def equal (e f : Entity) : Bool :=
  e.schema.name == f.schema.name && Json.equalTables e.record f.record

end Entity

end Dossier
