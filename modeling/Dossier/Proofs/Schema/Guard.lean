import Dossier.Proofs.Json.WellFormed
import Dossier.Schema.Guard

/-!
# Guard — when one guard implies another

The guard's two runs of interest differ in their registries, their modes, or both.  A relation
between schemas is a *simulation* from one to the other when related schemas ask for the same
properties, or for fewer of them, and when the schemas that the two registries hold under a name
are related.  A property stays the same when its variants do, nested schemas being related.

* `Guard.Simulation.accepts`: what the first guard accepts for a schema, the second accepts for a
  related one.  The proof is on the size of the value: a nested record is a smaller value, whatever
  cycles the references form.
* `Schema.accepts_of_extends`: what is accepted stays accepted when the registry grows.
-/

namespace Dossier

namespace Variant

variable (registry : Registry)

/-- Does the variant nest an entity, be its name registered or not? -/
def nests : Variant → Bool
  | .entity _ | .reference _ => true
  | _ => false

/-- A variant with a shape of its own nests no entity. -/
theorem nested?_eq_none_of_fitsPlain {v : Json} {w : Variant} (h : w.fitsPlain v = true) :
    w.nested? registry = none := by
  cases w with
  | entity s => cases v <;> simp [fitsPlain] at h
  | reference name => cases v <;> simp [fitsPlain] at h
  | _ => rfl

theorem fits_of_nested {mode : Mode} {w : Variant} {s : Schema} (h : w.nested? registry = some s)
    (v : Json) : w.fits registry mode v = s.accepts registry mode v := by
  rw [fits_eq, h]

end Variant

namespace Schema

variable {registry : Registry} {mode : Mode} {s : Schema}

theorem accepts_obj_iff {fields : Fields Json} :
    s.accepts registry mode (.obj fields) = true ↔
      s.keysPass mode fields = true ∧
        ∀ p ∈ s.properties, p.holds registry mode (Fields.find? fields p.name) = true := by
  simp only [accepts, acceptsFields, Bool.and_eq_true, List.all_eq_true]

/-- Only objects are records. -/
theorem exists_obj_of_accepts {v : Json} (h : s.accepts registry mode v = true) :
    ∃ fields, v = .obj fields := by
  cases v with
  | obj fields => exact ⟨fields, rfl⟩
  | _ => cases h

/-- In development the keys pass when the schema declares each of them; in production always. -/
theorem keysPass_iff {fields : Fields Json} :
    s.keysPass mode fields = true ↔
      (mode = .development → ∀ key ∈ Fields.keys fields, s.declares key = true) := by
  cases mode <;> simp [keysPass, Mode.rejectsExtraKeys, extraKeys, List.filter_eq_nil_iff]

end Schema

namespace Property

variable {registry : Registry} {mode : Mode} {p : Property}

theorem fits_iff {v : Json} :
    p.fits registry mode v = true ↔
      if p.isArray then
        ∃ items, v = .arr items ∧ ∀ u ∈ items, ∃ w ∈ p.present, w.fits registry mode u = true
      else ∃ w ∈ p.present, w.fits registry mode v = true := by
  cases h : p.isArray with
  | false => simp [fits, h]
  | true =>
      cases v <;>
        simp [fits, h, Guard.arrayFits, Guard.itemsFit_eq]

end Property

/-! ### Simulations between guards -/

/-- The same variant, or two that nest related schemas. -/
inductive Variant.Related (rel : Schema → Schema → Prop) : Variant → Variant → Prop where
  | same {w : Variant} (h : ∀ s, w = .entity s → rel s s) : Related rel w w
  | entity {s s' : Schema} (h : rel s s') : Related rel (.entity s) (.entity s')

/-- Two properties of one name, both arrays or neither, where each variant of the first is related
to one of the second. -/
structure Property.Related (rel : Schema → Schema → Prop) (p p' : Property) : Prop where
  name : p.name = p'.name
  isArray : p.isArray = p'.isArray
  variants : ∀ w ∈ p.variants, ∃ w' ∈ p'.variants, w.Related rel w'

section Related

variable {rel : Schema → Schema → Prop}

theorem Variant.Related.isAbsent {w w' : Variant} (h : w.Related rel w') :
    w.isAbsent = w'.isAbsent := by
  cases h <;> rfl

theorem Variant.Related.fitsPlain {w w' : Variant} (h : w.Related rel w') {v : Json}
    (hv : w.fitsPlain v = true) : w'.fitsPlain v = true := by
  cases h with
  | same _ => exact hv
  | entity _ => cases v <;> cases hv

theorem Property.Related.refl (h : ∀ s, rel s s) (p : Property) : p.Related rel p :=
  ⟨rfl, rfl, fun w hw => ⟨w, hw, .same fun s _ => h s⟩⟩

theorem Property.Related.isOptional {p p' : Property} (h : p.Related rel p')
    (ho : p.isOptional = true) : p'.isOptional = true := by
  obtain ⟨w, hw, ha⟩ := List.any_eq_true.mp ho
  obtain ⟨w', hw', hr⟩ := h.variants w hw
  exact List.any_eq_true.mpr ⟨w', hw', hr.isAbsent ▸ ha⟩

theorem Property.Related.present {p p' : Property} (h : p.Related rel p') {w : Variant}
    (hw : w ∈ p.present) : ∃ w' ∈ p'.present, w.Related rel w' := by
  obtain ⟨hm, ha⟩ := List.mem_filter.mp hw
  obtain ⟨w', hm', hr⟩ := h.variants w hm
  exact ⟨w', List.mem_filter.mpr ⟨hm', hr.isAbsent ▸ ha⟩, hr⟩

end Related

namespace Guard

/-- Related schemas ask for no more in the second registry and mode than in the first. -/
structure Simulation (r r' : Registry) (m m' : Mode) (rel : Schema → Schema → Prop) : Prop where
  /-- Keys that pass for a schema pass for a related one. -/
  keys {s s' : Schema} {fields : Fields Json} :
    rel s s' → s.keysPass m fields = true → s'.keysPass m' fields = true
  /-- Every property of a related schema is related to one of the schema. -/
  properties {s s' : Schema} : rel s s' → ∀ p' ∈ s'.properties, ∃ p ∈ s.properties, p.Related rel p'
  /-- What is registered under a name is related. -/
  registered {name : String} {s : Schema} :
    r.get? name = some s → ∃ s', r'.get? name = some s' ∧ rel s s'

namespace Simulation

variable {r r' : Registry} {m m' : Mode} {rel : Schema → Schema → Prop}

/-- What related variants nest is related. -/
theorem nested (sim : Simulation r r' m m' rel) {w w' : Variant} (hr : w.Related rel w') {s : Schema}
    (hn : w.nested? r = some s) : ∃ s', w'.nested? r' = some s' ∧ rel s s' := by
  cases hr with
  | entity h => exact ⟨_, rfl, Option.some.inj hn ▸ h⟩
  | same h =>
      cases w with
      | entity t => exact ⟨s, hn, h s (congrArg _ (Option.some.inj hn))⟩
      | reference name => exact sim.registered hn
      | _ => cases hn

/-- A variant's verdict carries over once those of the entity it nests do. -/
theorem fits (sim : Simulation r r' m m' rel) {v : Json}
    (h : ∀ s s', rel s s' → s.accepts r m v = true → s'.accepts r' m' v = true) {w w' : Variant}
    (hr : w.Related rel w') (hw : w.fits r m v = true) : w'.fits r' m' v = true := by
  cases hn : w.nested? r with
  | none =>
      -- the value has the variant's shape, so nothing is nested in the second registry either
      rw [Variant.fits_eq, hn] at hw
      rw [Variant.fits_eq, Variant.nested?_eq_none_of_fitsPlain r' (hr.fitsPlain hw)]
      exact hr.fitsPlain hw
  | some s =>
      obtain ⟨s', hn', hrel⟩ := sim.nested hr hn
      rw [Variant.fits_of_nested r hn] at hw
      rw [Variant.fits_of_nested r' hn']
      exact h s s' hrel hw

/-- A property's verdict carries over once those of its variants do, on the value and its items. -/
theorem holds {p p' : Property} (hr : p.Related rel p') {v : Option Json}
    (h : ∀ u ∈ v, ∀ x, sizeOf x ≤ sizeOf u → ∀ w w' : Variant, w.Related rel w' →
      w.fits r m x = true → w'.fits r' m' x = true)
    (hp : p.holds r m v = true) : p'.holds r' m' v = true := by
  cases v with
  | none => exact hr.isOptional hp
  | some u =>
      simp only [Property.holds] at hp ⊢
      rw [Property.fits_iff] at hp ⊢
      rw [← hr.isArray]
      cases ha : p.isArray with
      | false =>
          simp only [ha] at hp ⊢
          obtain ⟨w, hw, hf⟩ := hp
          obtain ⟨w', hw', hr⟩ := hr.present hw
          exact ⟨w', hw', h u rfl u (Nat.le_refl _) w w' hr hf⟩
      | true =>
          simp only [ha, if_true] at hp ⊢
          obtain ⟨items, rfl, hi⟩ := hp
          refine ⟨items, rfl, fun x hx => ?_⟩
          obtain ⟨w, hw, hf⟩ := hi x hx
          obtain ⟨w', hw', hr⟩ := hr.present hw
          exact ⟨w', hw', h _ rfl x (Nat.le_of_lt (Json.sizeOf_lt_of_mem hx)) w w' hr hf⟩

/-- **Simulation.**  What the first guard accepts for a schema, the second accepts for a related
one. -/
theorem accepts (sim : Simulation r r' m m' rel) (v : Json) (s s' : Schema) (hrel : rel s s')
    (h : s.accepts r m v = true) : s'.accepts r' m' v = true := by
  obtain ⟨fields, rfl⟩ := Schema.exists_obj_of_accepts h
  obtain ⟨hk, hp⟩ := Schema.accepts_obj_iff.mp h
  refine Schema.accepts_obj_iff.mpr ⟨sim.keys hrel hk, fun p' hm' => ?_⟩
  obtain ⟨p, hm, hr⟩ := sim.properties hrel p' hm'
  rw [← hr.name]
  refine holds hr (fun u hu x hx w w' hw => ?_) (hp p hm)
  -- `x` is the entry `u` or one of its items
  have : sizeOf x < sizeOf (Json.obj fields) :=
    Nat.lt_of_le_of_lt hx (Json.sizeOf_lt_of_find? hu)
  exact sim.fits (fun t t' ht hx => sim.accepts x t t' ht hx) hw
termination_by sizeOf v

end Simulation

end Guard

/-! ### A growing registry -/

/-- Every binding of the first registry is one of the second. -/
def Registry.Extends (r r' : Registry) : Prop :=
  ∀ name s, r.get? name = some s → r'.get? name = some s

namespace Registry

theorem Extends.refl (r : Registry) : r.Extends r := fun _ _ h => h

theorem Extends.trans {r r' r'' : Registry} (h : r.Extends r') (h' : r'.Extends r'') :
    r.Extends r'' := fun name s hs => h' name s (h name s hs)

theorem extends_register (r : Registry) (s : Schema) : r.Extends (r.register s).2 := by
  intro name t ht
  rw [register_eq, get?_insertIfAbsent, ht]
  rfl

/-- A registry that has grown is simulated schema by schema. -/
theorem Extends.simulation {r r' : Registry} (h : r.Extends r') (m : Mode) :
    Guard.Simulation r r' m m Eq where
  keys := by rintro s _ fields rfl hk; exact hk
  properties := by rintro s _ rfl p hp; exact ⟨p, hp, .refl (fun _ => rfl) p⟩
  registered := fun {name s} hs => ⟨s, h name s hs, rfl⟩

end Registry

/-- What is accepted stays accepted when the registry grows. -/
theorem Schema.accepts_of_extends {r r' : Registry} (h : r.Extends r') {m : Mode} {s : Schema}
    {v : Json} (ha : s.accepts r m v = true) : s.accepts r' m v = true :=
  (h.simulation m).accepts v s s rfl ha

end Dossier
