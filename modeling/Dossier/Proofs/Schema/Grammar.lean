import Dossier.Proofs.Number.Value
import Dossier.Proofs.Schema.Guard

/-!
# Grammar — what a schema derives

A schema reads as a grammar: its properties say which entries a record has, and each variant says
which values it derives.  A derivation is finite, so one through a cycle of references ends where the
value does.  No rule derives a value from the variant `absent`.

Whether a value is the member of an enumeration is for the reader of the grammar to say.
`Number.SameValue` compares numbers of either kind by their values, and `Number.SameDouble` by their
nearest doubles, as the guard does.

* `Schema.derives_of_accepts`: what the guard accepts is derived.  The proof is on the size of the
  value, as the guard walks it.
* `Schema.Derives.accepts`: what is derived the guard accepts.  The proof is on the derivation.
* `accepts_iff_derives`: so the guard decides the grammar with nearest doubles.  It accepts what the
  grammar with values derives, and nothing else where all numbers are values of doubles.
* `accepts_next_integer`: for larger integers it does, a neighbour of a member being taken for it.
-/

namespace Dossier

/-! ### Members -/

/-- The numbers have one value, whatever their kinds. -/
def Number.SameValue (m n : Number) : Prop := m.value = n.value

/-- The numbers have one nearest double. -/
def Number.SameDouble (m n : Number) : Prop := m.agrees n = true

/-- The value is the member: as a number by the given comparison, and else by equality. -/
def Json.Same (same : Number → Number → Prop) : Json → Json → Prop
  | .num m, .num n => same m n
  | u, v => u.equal v = true

/-- Only where both are numbers does the comparison count. -/
theorem Json.Same.mono {same same' : Number → Number → Prop} {u v : Json}
    (h : ∀ m n, u = .num m → v = .num n → same m n → same' m n) (hs : u.Same same v) :
    u.Same same' v := by
  cases u with
  | num m =>
      cases v with
      | num n => exact h m n rfl rfl hs
      | _ => exact hs
  | _ => cases v <;> exact hs

/-! ### The guard on a variant -/

section Variants

variable {registry : Registry} {mode : Mode} {name : String} {v : Json}

theorem Variant.fits_reference {s : Schema} (h : registry.get? name = some s) :
    (Variant.reference name).fits registry mode v = s.accepts registry mode v :=
  fits_of_nested registry (show nested? registry (.reference name) = some s from h) v

theorem Variant.fits_enumeration {members : List Json} :
    (Variant.enumeration name members).fits registry mode v = hasMember members v := by
  rw [fits_eq]
  cases v <;> rfl

theorem Variant.hasMember_iff {members : List Json} :
    hasMember members v = true ↔ ∃ u ∈ members, u.Same Number.SameDouble v := by
  rw [hasMember, List.any_eq_true]
  refine exists_congr fun u => and_congr_right fun _ => ?_
  cases u <;> cases v <;> simp [Json.Same, Number.SameDouble]

end Variants

/-! ### Derivations -/

section Grammar

variable (same : Number → Number → Prop) (registry : Registry) (mode : Mode)

mutual

/-- The variant derives the value. -/
inductive Variant.Derives : Variant → Json → Prop where
  | string (s : String) : Variant.Derives .string (.str s)
  | number (n : Number) : Variant.Derives .number (.num n)
  | integer {n : Number} (whole : ∃ k : ℤ, n.value = k) : Variant.Derives .integer (.num n)
  | boolean (b : Bool) : Variant.Derives .boolean (.bool b)
  | json (v : Json) : Variant.Derives .json v
  | null : Variant.Derives .null .null
  | member {name : String} {members : List Json} {u v : Json} (hu : u ∈ members)
      (h : u.Same same v) : Variant.Derives (.enumeration name members) v
  | entity {s : Schema} {v : Json} (h : Schema.Derives s v) : Variant.Derives (.entity s) v
  | reference {name : String} {s : Schema} {v : Json} (registered : registry.get? name = some s)
      (h : Schema.Derives s v) : Variant.Derives (.reference name) v

/-- Some variant for values that are there derives the value. -/
inductive Property.DerivesOne : Property → Json → Prop where
  | mk {p : Property} {w : Variant} {v : Json} (hw : w ∈ p.present) (h : Variant.Derives w v) :
      Property.DerivesOne p v

/-- The property derives the value: from a variant, or item by item. -/
inductive Property.Derives : Property → Json → Prop where
  | one {p : Property} {v : Json} (single : p.isArray = false) (h : Property.DerivesOne p v) :
      Property.Derives p v
  | array {p : Property} {items : List Json} (isArray : p.isArray = true)
      (h : ∀ u ∈ items, Property.DerivesOne p u) : Property.Derives p (.arr items)

/-- The schema derives the value: an object whose keys are all declared, in development, which
leaves out optional properties only, and whose entries are derived from their properties. -/
inductive Schema.Derives : Schema → Json → Prop where
  | record {s : Schema} {fields : Fields Json}
      (keys : mode = .development → ∀ key ∈ Fields.keys fields, s.declares key = true)
      (required : ∀ p ∈ s.properties, p.isOptional = false → Fields.find? fields p.name ≠ none)
      (entries : ∀ p ∈ s.properties, ∀ v, Fields.find? fields p.name = some v →
        Property.Derives p v) : Schema.Derives s (.obj fields)

end

end Grammar

/-! ### What is accepted is derived -/

/-- The value stands in the other one, at any depth. -/
inductive Json.Within : Json → Json → Prop where
  | self (v : Json) : Json.Within v v
  | item {x u : Json} {items : List Json} (hu : u ∈ items) (h : Json.Within x u) :
      Json.Within x (.arr items)
  | entry {x : Json} {e : String × Json} {fields : Fields Json} (he : e ∈ fields)
      (h : Json.Within x e.2) : Json.Within x (.obj fields)

theorem Json.Within.trans {x u v : Json} (h : x.Within u) (h' : u.Within v) : x.Within v := by
  induction h' with
  | self => exact h
  | item hu _ ih => exact .item hu ih
  | entry he _ ih => exact .entry he ih

theorem Json.Within.sizeOf_le {u v : Json} (h : u.Within v) : sizeOf u ≤ sizeOf v := by
  induction h with
  | self => exact Nat.le_refl _
  | item hu _ ih => exact ih.trans (Json.sizeOf_lt_of_mem hu).le
  | entry he _ ih => exact ih.trans (Json.sizeOf_lt_of_entry he).le

/-- The variant stands in the schema or in one that is nested in it, at any depth. -/
inductive Schema.Reaches (registry : Registry) : Schema → Variant → Prop where
  | variant {s : Schema} {p : Property} {w : Variant} (hp : p ∈ s.properties)
      (hw : w ∈ p.variants) : Schema.Reaches registry s w
  | nested {s t : Schema} {p : Property} {w w' : Variant} (hp : p ∈ s.properties)
      (hw : w ∈ p.variants) (hn : w.nested? registry = some t) (h : Schema.Reaches registry t w') :
      Schema.Reaches registry s w'

section Soundness

variable {same : Number → Number → Prop} {registry : Registry} {mode : Mode}

/-- A value that fits a variant is derived from it, once records of the nested schema are. -/
theorem Variant.derives_of_fits {w : Variant} {v : Json}
    (nested : ∀ t, w.nested? registry = some t → t.accepts registry mode v = true →
      t.Derives same registry mode v)
    (member : ∀ name members, w = .enumeration name members →
      ∀ u ∈ members, u.Same Number.SameDouble v → u.Same same v)
    (h : w.fits registry mode v = true) : w.Derives same registry mode v := by
  have plain := (fits_eq ..).symm.trans h
  cases w with
  | entity s => exact .entity (nested s rfl plain)
  | reference name =>
      cases hn : registry.get? name with
      | none => cases v <;> simp [nested?, hn, fitsPlain] at plain
      | some s => exact .reference hn (nested s hn ((fits_reference hn).symm.trans h))
  | enumeration name members =>
      obtain ⟨u, hu, hs⟩ := hasMember_iff.mp (fits_enumeration.symm.trans h)
      exact .member hu (member name members rfl u hu hs)
  | string =>
      cases v with
      | str s => exact .string s
      | _ => cases plain
  | number =>
      cases v with
      | num n => exact .number n
      | _ => cases plain
  | integer =>
      cases v with
      | num n => exact .integer (Number.isWhole_iff.mp plain)
      | _ => cases plain
  | boolean =>
      cases v with
      | bool b => exact .boolean b
      | _ => cases plain
  | null =>
      cases v with
      | null => exact .null
      | _ => cases plain
  | json => exact .json v
  | absent => cases v <;> cases plain

/-- A value that fits a property is derived from it, once the value and its items are derived from
the variants that they fit. -/
theorem Property.derives_of_fits {p : Property} {v : Json}
    (variant : ∀ u, u.Within v → ∀ w ∈ p.present, w.fits registry mode u = true →
      w.Derives same registry mode u)
    (h : p.fits registry mode v = true) : p.Derives same registry mode v := by
  rw [fits_iff] at h
  cases ha : p.isArray with
  | false =>
      simp only [ha] at h
      obtain ⟨w, hw, hf⟩ := h
      exact .one ha (.mk hw (variant v (.self v) w hw hf))
  | true =>
      simp only [ha, if_true] at h
      obtain ⟨items, rfl, hi⟩ := h
      refine .array ha fun u hu => ?_
      obtain ⟨w, hw, hf⟩ := hi u hu
      exact .mk hw (variant u (.item hu (.self u)) w hw hf)

/-- **What the guard accepts is derived**, where its members are those of the grammar. -/
theorem Schema.derives_of_accepts {s : Schema} {v : Json}
    (member : ∀ name members, s.Reaches registry (.enumeration name members) →
      ∀ u ∈ members, ∀ x, x.Within v → u.Same Number.SameDouble x → u.Same same x)
    (h : s.accepts registry mode v = true) : s.Derives same registry mode v := by
  obtain ⟨fields, rfl⟩ := exists_obj_of_accepts h
  obtain ⟨keys, holds⟩ := accepts_obj_iff.mp h
  refine .record (keysPass_iff.mp keys) (fun p hp ho hf => ?_) (fun p hp v hv => ?_)
  · have missing := holds p hp
    rw [hf, Property.holds, ho] at missing
    cases missing
  · have entry := Fields.mem_of_find? hv
    have fits := holds p hp
    rw [hv, Property.holds] at fits
    refine Property.derives_of_fits (fun u hu w hw hf => ?_) fits
    have within : u.Within (.obj fields) := .entry entry hu
    have : sizeOf u < sizeOf (Json.obj fields) :=
      Nat.lt_of_le_of_lt hu.sizeOf_le (Json.sizeOf_lt_of_entry entry)
    have hw : w ∈ p.variants := (List.mem_filter.mp hw).1
    refine Variant.derives_of_fits (fun t hn ht => ?_) (fun name members hm a ha => ?_) hf
    · refine derives_of_accepts (fun name members hr a ha x hx => ?_) ht
      exact member name members (.nested hp hw hn hr) a ha x (hx.trans within)
    · exact member name members (.variant hp (hm ▸ hw)) a ha u within
termination_by sizeOf v

end Soundness

/-! ### What is derived is accepted -/

section Completeness

variable {same : Number → Number → Prop} {registry : Registry} {mode : Mode}

mutual

theorem Variant.Derives.fits (hs : ∀ m n, same m n → m.SameDouble n) {w : Variant} {v : Json} :
    w.Derives same registry mode v → w.fits registry mode v = true
  | .string _ | .number _ | .boolean _ | .json _ | .null => Variant.fits_eq ..
  | .integer whole => (Variant.fits_eq ..).trans (Number.isWhole_iff.mpr whole)
  | .member hu h => by
      rw [Variant.fits_enumeration]
      exact Variant.hasMember_iff.mpr ⟨_, hu, h.mono fun m n _ _ => hs m n⟩
  | .entity h => (Variant.fits_eq ..).trans (h.accepts hs)
  | .reference registered h => by
      rw [Variant.fits_reference registered]
      exact h.accepts hs

theorem Property.DerivesOne.fits (hs : ∀ m n, same m n → m.SameDouble n) {p : Property}
    {v : Json} :
    p.DerivesOne same registry mode v → ∃ w ∈ p.present, w.fits registry mode v = true
  | .mk hw h => ⟨_, hw, h.fits hs⟩

theorem Property.Derives.fits (hs : ∀ m n, same m n → m.SameDouble n) {p : Property} {v : Json} :
    p.Derives same registry mode v → p.fits registry mode v = true
  | .one single h => by
      rw [Property.fits_iff, single]
      exact h.fits hs
  | .array isArray h => by
      rw [Property.fits_iff, if_pos isArray]
      exact ⟨_, rfl, fun u hu => (h u hu).fits hs⟩

/-- **What is derived the guard accepts**, where its members are members for the guard. -/
theorem Schema.Derives.accepts (hs : ∀ m n, same m n → m.SameDouble n) {s : Schema} {v : Json} :
    s.Derives same registry mode v → s.accepts registry mode v = true
  | .record keys required entries => by
      refine Schema.accepts_obj_iff.mpr ⟨Schema.keysPass_iff.mpr keys, fun p hp => ?_⟩
      cases hv : Fields.find? _ p.name with
      | none => exact Bool.of_not_eq_false fun ho => required p hp ho hv
      | some v => exact (entries p hp v hv).fits hs

end

end Completeness

/-! ### The two comparisons -/

/-- Every number in the value is the value of a double. -/
def Json.Exact (v : Json) : Prop := ∀ n, Json.Within (.num n) v → n.Exact

/-- So is every number among the members of the schema's enumerations, at any depth. -/
def Schema.Exact (registry : Registry) (s : Schema) : Prop :=
  ∀ name members, s.Reaches registry (.enumeration name members) →
    ∀ n, .num n ∈ members → n.Exact

namespace Json

theorem exact_num_iff {n : Number} : Exact (.num n) ↔ n.Exact := by
  constructor
  · exact fun h => h n (.self _)
  · intro h m hm
    cases hm with
    | self => exact h

theorem exact_arr_iff {items : List Json} : Exact (.arr items) ↔ ∀ u ∈ items, u.Exact := by
  constructor
  · exact fun h u hu n hn => h n (.item hu hn)
  · intro h n hn
    cases hn with
    | item hu hn => exact h _ hu n hn

theorem exact_obj_iff {fields : Fields Json} : Exact (.obj fields) ↔ ∀ e ∈ fields, e.2.Exact := by
  constructor
  · exact fun h e he n hn => h n (.entry he hn)
  · intro h n hn
    cases hn with
    | entry he hn => exact h _ he n hn

end Json

/-- **The guard decides the grammar.**  It accepts what a schema derives when numbers are members by
their nearest doubles.  So it accepts what the schema derives when they are members by their values,
and only that where the numbers are exact.  And no value that is there fits `absent`. -/
theorem accepts_iff_derives (registry : Registry) (mode : Mode) (s : Schema) (v : Json) :
    (s.accepts registry mode v = true ↔ s.Derives Number.SameDouble registry mode v)
    ∧ (s.Derives Number.SameValue registry mode v → s.accepts registry mode v = true)
    ∧ (s.Exact registry → v.Exact → s.accepts registry mode v = true →
      s.Derives Number.SameValue registry mode v)
    ∧ Variant.absent.fits registry mode v = false := by
  refine ⟨⟨fun h => ?_, fun h => h.accepts fun _ _ h => h⟩,
    fun h => h.accepts fun _ _ => Number.agrees_of_value_eq, fun hs hv h => ?_, ?_⟩
  · exact Schema.derives_of_accepts (fun _ _ _ _ _ _ _ h => h) h
  · refine Schema.derives_of_accepts (fun name members hr u hu x hx h => ?_) h
    refine h.mono fun m n hm hn agree => ?_
    exact Number.value_eq_of_agrees (hs name members hr m (hm ▸ hu)) (hv n (hn ▸ hx)) agree
  · rw [Variant.fits_eq]
    cases v <;> rfl

/-- A scale of one of two levels, with marks that are integers or scales again. -/
def Schema.scale : Schema :=
  .mk 0 "Scale" [
    .mk "level" [.enumeration "Level" [.num (.int 1 (by decide)), .num (.int 2 (by decide))]] false,
    .mk "marks" [.integer, .reference "Scale", .absent] true]

def Registry.scales : Registry := ⟨[("Scale", Schema.scale)], by decide, by decide⟩

/-- The level is `2.0`, and the marks are `3` and a scale of level `1`. -/
def Json.scale : Json :=
  .obj [("level", .num (.real ⟨false, 0x10000000000000, 1023, by decide, by decide, by decide⟩)),
    ("marks", .arr [.num (.int 3 (by decide)), .obj [("level", .num (.int 1 (by decide)))]])]

theorem Schema.exact_scale : scale.Exact .scales := by
  intro name members hr n hn
  generalize hs : scale = s at hr
  generalize hw : Variant.enumeration name members = w at hr
  induction hr with
  | variant hp hm =>
      subst hs hw
      simp only [scale, properties, List.mem_cons, List.not_mem_nil, or_false] at hp
      rcases hp with rfl | rfl
      · simp only [Property.variants, List.mem_singleton, Variant.enumeration.injEq] at hm
        obtain ⟨-, rfl⟩ := hm
        simp only [List.mem_cons, List.not_mem_nil, or_false, Json.num.injEq] at hn
        rcases hn with rfl | rfl <;> exact Number.exact_int (by decide)
      · simp [Property.variants] at hm
  | nested hp hm hn _ ih =>
      -- a mark is a scale again
      subst hs
      refine ih ?_ hw
      simp only [scale, properties, List.mem_cons, List.not_mem_nil, or_false] at hp
      rcases hp with rfl | rfl <;>
        simp only [Property.variants, List.mem_cons, List.not_mem_nil, or_false] at hm
      · subst hm
        cases hn
      · rcases hm with rfl | rfl | rfl
        · cases hn
        · exact Option.some.inj hn
        · cases hn

theorem accepts_iff_derives_scale :
    Schema.scale.Exact .scales ∧ Json.scale.Exact
      ∧ Schema.scale.accepts .scales .development Json.scale = true
      ∧ Schema.scale.Derives Number.SameValue .scales .development Json.scale := by
  have exact_ : Json.scale.Exact := by
    simp only [Json.scale, Json.exact_obj_iff, Json.exact_arr_iff, Json.exact_num_iff,
      List.forall_mem_cons]
    have empty {α : Type} {P : α → Prop} : ∀ x ∈ ([] : List α), P x := List.forall_mem_nil P
    exact ⟨Number.exact_real _,
      ⟨Number.exact_int (by decide), ⟨Number.exact_int (by decide), empty⟩, empty⟩, empty⟩
  have accepted : Schema.scale.accepts .scales .development Json.scale = true := by decide +kernel
  exact ⟨Schema.exact_scale, exact_, accepted,
    (accepts_iff_derives .scales .development Schema.scale Json.scale).2.2.1 Schema.exact_scale
      exact_ accepted⟩

/-- A gauge of the one level `2 ^ 53`. -/
def Schema.gauge : Schema :=
  .mk 0 "Gauge" [
    .mk "level" [.enumeration "Level" [.num (.int 0x20000000000000 (by decide))]] false]

/-- **The neighbour of a member is taken for it.**  The gauge takes the level `2 ^ 53 + 1`, which is
none of its levels. -/
theorem accepts_next_integer :
    Schema.gauge.accepts .empty .development
        (.obj [("level", .num (.int 0x20000000000001 (by decide)))]) = true
      ∧ ¬ Schema.gauge.Derives Number.SameValue .empty .development
        (.obj [("level", .num (.int 0x20000000000001 (by decide)))]) := by
  refine ⟨by decide +kernel, fun h => ?_⟩
  cases h with
  | record _ _ entries =>
      cases entries _ (.head _) _ rfl with
      | one _ h =>
          obtain ⟨hw, h⟩ := h
          obtain rfl := List.mem_singleton.mp hw
          cases h with
          | member hu h =>
              obtain rfl := List.mem_singleton.mp hu
              have : (0x20000000000000 : Int) = 0x20000000000001 := Int.cast_injective h
              cases this

end Dossier
