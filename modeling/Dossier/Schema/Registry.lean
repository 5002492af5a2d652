import Dossier.Schema.Declaration

/-!
# Schema — the registry

Schemas by entity name, so that a variant can refer to a schema by its name.  An entry is never
replaced or removed: the first schema registered under a name keeps it.

* `get?_insertIfAbsent`: an insertion adds its own name and changes no other.
-/

namespace Dossier

/-- Schemas under names, no two under one, each under its own. -/
structure Registry where
  entries : Fields Schema
  nodup : Fields.Nodup entries
  named : ∀ e ∈ entries, e.2.name = e.1

namespace Registry

def empty : Registry := ⟨[], List.nodup_nil, fun _ h => nomatch h⟩

/-- The schema registered under a name. -/
def get? (r : Registry) (name : String) : Option Schema := Fields.find? r.entries name

def contains (r : Registry) (name : String) : Bool := (r.get? name).isSome

/-- The number of registered schemas. -/
def size (r : Registry) : Nat := r.entries.length

/-- The registered names in increasing order. -/
def names (r : Registry) : List String :=
  (Fields.keys r.entries).mergeSort fun a b => decide (a ≤ b)

theorem get?_eq_none_iff (r : Registry) (name : String) :
    r.get? name = none ↔ name ∉ Fields.keys r.entries :=
  Fields.find?_eq_none_iff r.entries name

theorem name_of_get? {r : Registry} {name : String} {s : Schema} (h : r.get? name = some s) :
    s.name = name :=
  r.named (name, s) (Fields.mem_of_find? h)

/-- Adds a schema under its name unless the name is taken; gives whichever schema then holds the
name. -/
def insertIfAbsent (r : Registry) (s : Schema) : Schema × Registry :=
  match r.get? s.name with
  | some kept => (kept, r)
  | none =>
    (s, {
      entries := Fields.insert r.entries s.name s
      nodup := Fields.nodup_insert r.nodup s.name s
      named := fun e he => by
        obtain rfl | he := Fields.mem_of_mem_insert he
        · rfl
        · exact r.named e he })

/-- The look-up finds what was there before, and otherwise what the insertion added. -/
theorem get?_insertIfAbsent (r : Registry) (s : Schema) (name : String) :
    (r.insertIfAbsent s).2.get? name
      = (r.get? name).or (if s.name = name then some s else none) := by
  unfold insertIfAbsent
  split
  · next kept h =>
    by_cases hn : s.name = name
    · subst hn; simp [h]
    · simp [hn]
  · next h =>
    by_cases hn : s.name = name
    · subst hn; simp_all [get?]
    · simp [get?, Fields.find?_insert_of_ne _ _ hn, hn]

/-- Registers a schema: a look-up, and if that finds nothing, an insertion. -/
def register (r : Registry) (s : Schema) : Schema × Registry :=
  match r.get? s.name with
  | some kept => (kept, r)
  | none => r.insertIfAbsent s

/-- With no step of another's in between, the look-up and the insertion are the insertion alone. -/
theorem register_eq (r : Registry) (s : Schema) : r.register s = r.insertIfAbsent s := by
  unfold register
  split
  · next kept h =>
    unfold insertIfAbsent
    split
    · next kept' h' => rw [h] at h'; cases h'; rfl
    · next h' => rw [h] at h'; cases h'
  · rfl

end Registry

/-- Declared schemas so far: the registry and the serial number of the next declaration. -/
structure Catalog where
  registry : Registry
  nextSerial : Nat

namespace Catalog

def empty : Catalog := ⟨.empty, 0⟩

/-- Declares a schema, and publishes it in the registry when asked to.  The result is the schema
that then stands for the declaration: of a taken name, the one registered before. -/
def declare (c : Catalog) (name : String) (properties : List Property) (published : Bool) :
    Except SchemaError Schema × Catalog :=
  match Schema.declare c.nextSerial name properties with
  | .error fault => (.error fault, c)
  | .ok schema =>
    if published then
      let (kept, registry) := c.registry.register schema
      (.ok kept, ⟨registry, c.nextSerial + 1⟩)
    else (.ok schema, ⟨c.registry, c.nextSerial + 1⟩)

end Catalog

end Dossier
