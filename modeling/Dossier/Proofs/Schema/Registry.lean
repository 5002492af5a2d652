import Dossier.Proofs.Schema.Declaration
import Dossier.Proofs.Schema.Guard

/-!
# Registry — which schema stands for a name, and which one it is

A schema is told from others by its serial number, not by its name or properties.

* `Registry.get?_register_self`: a registration gives the schema that has the name afterwards, the one
  that is registered or one from before (`Registry.register_fst`).
* `Stock`: the schemas that a program has got, each by declaring or by publishing one.
* `Stock.Numbered.step`, `Stock.Numbered.run`: whatever a program declares and publishes, two schemas
  with one serial number are the same schema.
-/

namespace Dossier

namespace Registry

/-! ### Registrations -/

theorem get?_register (r : Registry) (s : Schema) (name : String) :
    (r.register s).2.get? name = (r.get? name).or (if s.name = name then some s else none) := by
  rw [register_eq, get?_insertIfAbsent]

theorem register_of_get? {r : Registry} {s kept : Schema} (h : r.get? s.name = some kept) :
    r.register s = (kept, r) := by
  rw [register, h]

theorem register_of_get?_eq_none {r : Registry} {s : Schema} (h : r.get? s.name = none) :
    (r.register s).1 = s := by
  rw [register_eq, insertIfAbsent]
  split
  · next found => cases h.symm.trans found
  · rfl

/-- A registration gives the schema that then has the name. -/
theorem get?_register_self (r : Registry) (s : Schema) :
    (r.register s).2.get? s.name = some (r.register s).1 := by
  cases h : r.get? s.name with
  | some kept => rw [register_of_get? h, h]
  | none => rw [get?_register, h, register_of_get?_eq_none h, if_pos rfl, Option.none_or]

/-- It is the schema to be registered, or one that had the name before. -/
theorem register_fst (r : Registry) (s : Schema) :
    r.get? s.name = some (r.register s).1 ∨ (r.register s).1 = s := by
  cases h : r.get? s.name with
  | some kept => exact .inl (by rw [register_of_get? h])
  | none => exact .inr (register_of_get?_eq_none h)

/-- Nothing else is bound by a registration. -/
theorem get?_or_eq_of_register {r : Registry} {s t : Schema} {name : String}
    (h : (r.register s).2.get? name = some t) : r.get? name = some t ∨ t = (r.register s).1 := by
  cases hs : r.get? s.name with
  | some kept =>
      rw [register_of_get? hs] at h
      exact .inl h
  | none =>
      rw [get?_register, Option.or_eq_some_iff] at h
      rcases h with h | ⟨-, h⟩
      · exact .inl h
      · obtain ⟨-, same⟩ := Option.ite_none_right_eq_some.mp h
        exact .inr ((Option.some.inj same).symm.trans (register_of_get?_eq_none hs).symm)

end Registry

/-- What a declaration comes to: nothing, or a schema with the next serial number, which is registered
when it is to be published. -/
theorem Catalog.declare_cases (c : Catalog) (name : String) (properties : List Property)
    (published : Bool) :
    (∃ fault, c.declare name properties published = (.error fault, c))
    ∨ (∃ s : Schema, s.serial = c.nextSerial
      ∧ c.declare name properties published = (.ok s, ⟨c.registry, c.nextSerial + 1⟩))
    ∨ ∃ s : Schema, s.serial = c.nextSerial
      ∧ c.declare name properties published
        = (.ok (c.registry.register s).1, ⟨(c.registry.register s).2, c.nextSerial + 1⟩) := by
  rw [declare]
  cases hs : Schema.declare c.nextSerial name properties with
  | error fault => exact .inl ⟨fault, rfl⟩
  | ok s =>
      have serial_eq : s.serial = c.nextSerial := by
        obtain ⟨-, -, rfl⟩ := Schema.declare_eq_ok_iff.mp hs
        rfl
      cases published with
      | false => exact .inr (.inl ⟨s, serial_eq, rfl⟩)
      | true => exact .inr (.inr ⟨s, serial_eq, rfl⟩)

/-! ### The schemas of a program -/

/-- What a program does to get a schema. -/
inductive Declaration where
  | declare (name : String) (properties : List Property) (published : Bool)
  /-- Publishes a schema that the program has, told by its place. -/
  | register (place : Nat)

/-- The catalog, and the schemas that a program has got. -/
structure Stock where
  catalog : Catalog
  schemas : List Schema

namespace Stock

def empty : Stock := ⟨.empty, []⟩

def step (k : Stock) : Declaration → Stock
  | .declare name properties published =>
    match k.catalog.declare name properties published with
    | (.ok s, catalog) => ⟨catalog, k.schemas ++ [s]⟩
    | (.error _, catalog) => ⟨catalog, k.schemas⟩
  | .register place =>
    match k.schemas[place]? with
    | some s =>
      let (kept, registry) := k.catalog.registry.register s
      ⟨⟨registry, k.catalog.nextSerial⟩, k.schemas ++ [kept]⟩
    | none => k

/-- What a program has got after some declarations. -/
def run (k : Stock) (declarations : List Declaration) : Stock := declarations.foldl step k

/-- The serial number of a schema is below the next one, and no other schema has it. -/
structure Numbered (k : Stock) : Prop where
  registered {name : String} {s : Schema} : k.catalog.registry.get? name = some s → s ∈ k.schemas
  lt {s : Schema} : s ∈ k.schemas → s.serial < k.catalog.nextSerial
  unique {s t : Schema} : s ∈ k.schemas → t ∈ k.schemas → s.serial = t.serial → s = t

theorem numbered_empty : Numbered empty where
  registered h := by cases h
  lt h := by cases h
  unique h := by cases h

variable {k : Stock} {registry : Registry} {s : Schema} {next : Nat}

/-- A schema that is there already, or has a new number, can be added and bound. -/
theorem Numbered.concat (h : k.Numbered) (le : k.catalog.nextSerial ≤ next)
    (hs : s ∈ k.schemas ∨ k.catalog.nextSerial ≤ s.serial ∧ s.serial < next)
    (hr : ∀ name t, registry.get? name = some t → k.catalog.registry.get? name = some t ∨ t = s) :
    Numbered ⟨⟨registry, next⟩, k.schemas ++ [s]⟩ := by
  -- a number that is new is none of a schema from before
  have same {t : Schema} (ht : t ∈ k.schemas) (eq : t.serial = s.serial) : t = s := by
    rcases hs with hs | ⟨new, -⟩
    · exact h.unique ht hs eq
    · exact absurd (h.lt ht) (by omega)
  refine ⟨fun {name t} ht => ?_, fun {t} ht => ?_, fun {t u} ht hu eq => ?_⟩
  · rcases hr name t ht with ht | rfl
    · exact List.mem_append_left _ (h.registered ht)
    · exact List.mem_append_right _ (List.mem_singleton.mpr rfl)
  · rcases List.mem_append.mp ht with ht | ht
    · exact Nat.lt_of_lt_of_le (h.lt ht) le
    · obtain rfl := List.mem_singleton.mp ht
      rcases hs with hs | ⟨-, below⟩
      · exact Nat.lt_of_lt_of_le (h.lt hs) le
      · exact below
  · rw [List.mem_append, List.mem_singleton] at ht hu
    rcases ht with ht | rfl
    · rcases hu with hu | rfl
      · exact h.unique ht hu eq
      · exact same ht eq
    · rcases hu with hu | rfl
      · exact (same hu eq.symm).symm
      · rfl

theorem Numbered.step (h : k.Numbered) (d : Declaration) : (k.step d).Numbered := by
  have kept (s : Schema) : (k.catalog.registry.register s).1 ∈ k.schemas
      ∨ (k.catalog.registry.register s).1 = s :=
    (k.catalog.registry.register_fst s).imp_left h.registered
  cases d with
  | declare name properties published =>
      rw [Stock.step]
      rcases k.catalog.declare_cases name properties published with
        ⟨fault, eq⟩ | ⟨s, serial_eq, eq⟩ | ⟨s, serial_eq, eq⟩
      · rwa [eq]
      · rw [eq]
        have new : k.catalog.nextSerial ≤ s.serial ∧ s.serial < k.catalog.nextSerial + 1 := by omega
        exact h.concat (Nat.le_succ _) (.inr new) fun _ _ ht => .inl ht
      · rw [eq]
        have new : k.catalog.nextSerial ≤ s.serial ∧ s.serial < k.catalog.nextSerial + 1 := by omega
        refine h.concat (Nat.le_succ _) ?_ fun _ _ => Registry.get?_or_eq_of_register
        rcases kept s with before | same
        · exact .inl before
        · exact .inr (same.symm ▸ new)
  | register place =>
      rw [Stock.step]
      split
      · next s here =>
        have held : s ∈ k.schemas := List.mem_of_getElem? here
        refine h.concat (Nat.le_refl _) (.inl ?_) fun _ _ => Registry.get?_or_eq_of_register
        rcases kept s with before | same
        · exact before
        · exact same.symm ▸ held
      · exact h

/-- **Two schemas of a program with one serial number are the same schema.** -/
theorem Numbered.run (h : k.Numbered) (declarations : List Declaration) :
    (k.run declarations).Numbered := by
  induction declarations generalizing k with
  | nil => exact h
  | cons d rest ih => exact ih (h.step d)

/-- Whatever is declared and published, what is bound stays bound. -/
theorem extends_step (k : Stock) (d : Declaration) :
    k.catalog.registry.Extends (k.step d).catalog.registry := by
  cases d with
  | declare name properties published =>
      rw [step]
      rcases k.catalog.declare_cases name properties published with
        ⟨fault, eq⟩ | ⟨s, serial_eq, eq⟩ | ⟨s, serial_eq, eq⟩
      · rw [eq]
        exact .refl _
      · rw [eq]
        exact .refl _
      · rw [eq]
        exact Registry.extends_register _ s
  | register place =>
      rw [step]
      split
      · next s here => exact Registry.extends_register _ s
      · exact .refl _

theorem extends_run (k : Stock) (declarations : List Declaration) :
    k.catalog.registry.Extends (k.run declarations).catalog.registry := by
  induction declarations generalizing k with
  | nil => exact .refl _
  | cons d rest ih => exact (k.extends_step d).trans (ih _)

end Stock

end Dossier
