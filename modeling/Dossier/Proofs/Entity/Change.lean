import Dossier.Entity.Update
import Dossier.Proofs.Schema.Declaration
import Dossier.Proofs.Schema.Explanation

/-!
# Entity — the calls that change one

A call sets a property, from a value or from a typed one, or unsets it.

* `Entity.set_eq`, `Entity.unset_eq`: what such a call comes to, by the declaration of its property.
* `Entity.set_eq_ok_iff`, `Entity.unset_eq_ok_iff`: when such a call succeeds, and what it leaves.
* `Change.changed`: so whatever the call, an entity that it changes has one declared property
  written with a value that this property takes, or one optional property left out.
-/

namespace Dossier

/-- A call that changes an entity. -/
inductive Change : Type 1 where
  | set (property : String) (value : Json)
  | setAs {α : Type} [Codec α] (property : String) (value : α)
  | unset (property : String)
  | setOptional (property : String) (value : Option Json)

namespace Change

/-- What the call comes to. -/
def apply (registry : Registry) (e : Entity) : Change → Except EntityError Entity
  | .set property value => e.set registry property value
  | @setAs _ _ property value => e.setAs registry property value
  | .unset property => e.unset property
  | .setOptional property value => e.setOptional registry property value

/-- The entity after the call: one that fails leaves it as it was. -/
def after (registry : Registry) (e : Entity) (c : Change) : Entity :=
  match c.apply registry e with
  | .ok changed => changed
  | .error _ => e

end Change

namespace Entity

variable {registry : Registry} {e e' : Entity} {property : String}

theorem set_eq (registry : Registry) (e : Entity) (property : String) (value : Json) :
    e.set registry property value
      = match e.schema.property? property with
        | none => .error (.unknownProperty e.schema.name property)
        | some p =>
          let r := p.report registry e.mode (some value)
          if r.ok then
            .ok { e with
              record := Fields.insertInOrder e.schema.propertyNames e.record property value }
          else .error (.invalidProperty e.schema.name property (String.intercalate "\n" r.lines)) := by
  rw [set, declared]
  cases e.schema.property? property <;> rfl

theorem unset_eq (e : Entity) (property : String) :
    e.unset property
      = match e.schema.property? property with
        | none => .error (.unknownProperty e.schema.name property)
        | some p =>
          if p.isOptional then .ok { e with record := Fields.erase e.record property }
          else .error (.requiredProperty e.schema.name property) := by
  rw [unset, declared]
  cases e.schema.property? property <;> rfl

/-- A set succeeds when the property is declared and takes the value; it writes the value in the
order of the declaration. -/
theorem set_eq_ok_iff {value : Json} :
    e.set registry property value = .ok e' ↔
      ∃ p, e.schema.property? property = some p ∧ p.fits registry e.mode value = true ∧
        e' = { e with
          record := Fields.insertInOrder e.schema.propertyNames e.record property value } := by
  rw [set_eq]
  cases hp : e.schema.property? property with
  | none => simp
  | some p =>
      have hok : (p.report registry e.mode (some value)).ok = p.fits registry e.mode value :=
        p.ok_report (some value)
      simp only [hok, Option.some.injEq, exists_eq_left']
      split
      · next hv => simp [hv, eq_comm]
      · next hv => simp [hv]

/-- After a set that succeeds, the value is what the property has. -/
theorem get?_of_set {value : Json} (h : e.set registry property value = .ok e') :
    e'.get? property = some value := by
  obtain ⟨p, declared, -, rfl⟩ := set_eq_ok_iff.mp h
  have listed := Schema.mem_propertyNames_of_property? declared
  exact (Fields.find?_insertInOrder _ _ listed _).trans (if_pos rfl)

/-- An unset succeeds when the property is declared as optional; it leaves the property out. -/
theorem unset_eq_ok_iff :
    e.unset property = .ok e' ↔
      ∃ p, e.schema.property? property = some p ∧ p.isOptional = true ∧
        e' = { e with record := Fields.erase e.record property } := by
  rw [unset_eq]
  cases hp : e.schema.property? property with
  | none => simp
  | some p =>
      simp only [Option.some.injEq, exists_eq_left']
      split
      · next ho => simp [ho, eq_comm]
      · next ho => simp [ho]

/-- An entity as a call that succeeds leaves it. -/
inductive Changed (registry : Registry) (e : Entity) : Entity → Prop where
  /-- A declared property is written with a value that it takes. -/
  | written {property : String} {p : Property} {value : Json}
      (declared : e.schema.property? property = some p)
      (fits : p.fits registry e.mode value = true) :
      Changed registry e { e with
        record := Fields.insertInOrder e.schema.propertyNames e.record property value }
  /-- An optional property is left out. -/
  | erased {property : String} {p : Property} (declared : e.schema.property? property = some p)
      (optional : p.isOptional = true) :
      Changed registry e { e with record := Fields.erase e.record property }

theorem changed_of_set {value : Json} (h : e.set registry property value = .ok e') :
    e.Changed registry e' := by
  obtain ⟨p, hp, hv, rfl⟩ := set_eq_ok_iff.mp h
  exact .written hp hv

theorem changed_of_unset (h : e.unset property = .ok e') : e.Changed registry e' := by
  obtain ⟨p, hp, ho, rfl⟩ := unset_eq_ok_iff.mp h
  exact .erased hp ho

end Entity

/-- **What a call does.**  Whatever the call, an entity that it changes has one property written or
one left out. -/
theorem Change.changed {registry : Registry} {e e' : Entity} {c : Change}
    (h : c.apply registry e = .ok e') : e.Changed registry e' := by
  cases c with
  | set property value => exact Entity.changed_of_set h
  | setAs property value =>
      simp only [apply, Entity.setAs] at h
      split at h
      · cases h
      · exact Entity.changed_of_set h
  | unset property => exact Entity.changed_of_unset h
  | setOptional property value =>
      cases value with
      | none => exact Entity.changed_of_unset h
      | some v => exact Entity.changed_of_set h

end Dossier
