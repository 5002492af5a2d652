import Dossier.Json.Equality
import Dossier.Chain.Error
import Dossier.Chain.Layout

/-!
# Chain — the pool

The records that references are looked up among, by name and in the order in which their names were
first seen.  A record takes the place of an earlier one of its name.
-/

namespace Dossier

/-- Named records, no two of one name. -/
structure Pool where
  records : Fields (Fields Json)
  nodup : Fields.Nodup records

namespace Pool

def empty : Pool := ⟨[], List.nodup_nil⟩

/-- Puts a record under a name. -/
def insert (p : Pool) (name : String) (record : Fields Json) : Pool :=
  ⟨Fields.insert p.records name record, Fields.nodup_insert p.nodup name record⟩

/-- The record of the given name. -/
def get? (p : Pool) (name : String) : Option (Fields Json) := Fields.find? p.records name

theorem get?_insert (p : Pool) (name : String) (record : Fields Json) (other : String) :
    (p.insert name record).get? other = if name = other then some record else p.get? other :=
  Fields.find?_insert p.records name other record

def contains (p : Pool) (name : String) : Bool := Fields.contains p.records name

/-- The number of records. -/
def size (p : Pool) : Nat := p.records.length

def isEmpty (p : Pool) : Bool := p.records.isEmpty

/-- The names, in the order in which they were first seen. -/
def names (p : Pool) : List String := Fields.keys p.records

/-- Pools are equal when they hold equal records under the same names, in whatever order. -/
def equal (p q : Pool) : Bool :=
  p.size == q.size && p.records.all fun e =>
    match q.get? e.1 with
    | some record => Json.equalTables e.2 record
    | none => false

/-- Puts records under their own names into a pool; the first of them is at the given position. -/
def insertAll (l : Layout) (position : Nat) (p : Pool) : List Json → Except ResolveError Pool
  | [] => .ok p
  | v :: rest =>
    match v with
    | .obj record =>
      match l.nameOf? record with
      | some name => insertAll l (position + 1) (p.insert name record) rest
      | none => .error (.unnamed position l.name)
    | _ => .error (.unnamed position l.name)

/-- The pool of a list of records, each of which must be an object with a name. -/
def ofRecords (l : Layout) (records : List Json) : Except ResolveError Pool :=
  insertAll l 0 empty records

end Pool

end Dossier
