import Dossier.Candidate
import Dossier.Schema.Default
import Dossier.Entity.Error

/-!
# Entity — making entities

An entity is made from the default record, from a given record, or by folding several sources over
the default record.  Except for the default record, what does not pass the guard makes no entity.
-/

namespace Dossier

namespace Entity

variable (registry : Registry)

/-- An entity with the default record, which is taken as it is. -/
def create (schema : Schema) (mode : Mode) : Entity :=
  ⟨schema, schema.defaultFields registry, mode⟩

/-- An entity with the given record, if that is one of the schema. -/
def ofDto (schema : Schema) (dto : Json) (mode : Mode) : Except EntityError Entity :=
  match dto with
  | .obj fields =>
    if schema.acceptsFields registry mode fields then .ok ⟨schema, fields, mode⟩
    else .error (.invalidDto schema.name (schema.explain registry mode dto))
  | _ => .error (.invalidDto schema.name (schema.explain registry mode dto))

/-- The entries that a source contributes: an object's or a live entity's. -/
def contribution : Candidate → Fields Json
  | .json (.obj fields) => fields
  | .entity e => e.record
  | _ => []

/-- The sources written one after the other over the default record. -/
def folded (schema : Schema) (sources : List Candidate) : Fields Json :=
  sources.foldl (fun t c => Fields.update t (contribution c)) (schema.defaultFields registry)

/-- An entity of the folded sources: of each key the last value counts, as a whole. -/
def merge (schema : Schema) (sources : List Candidate) (mode : Mode) : Except EntityError Entity :=
  ofDto registry schema (.obj (folded registry schema sources)) mode

end Entity

/-- A schema bound to a mode, for making entities. -/
structure EntityType where
  schema : Schema
  mode : Mode

namespace EntityType

variable (registry : Registry)

def create (t : EntityType) : Entity := Entity.create registry t.schema t.mode

def ofDto (t : EntityType) (dto : Json) : Except EntityError Entity :=
  Entity.ofDto registry t.schema dto t.mode

def merge (t : EntityType) (sources : List Candidate) : Except EntityError Entity :=
  Entity.merge registry t.schema sources t.mode

end EntityType

end Dossier
