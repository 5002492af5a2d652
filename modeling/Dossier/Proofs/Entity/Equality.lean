import Dossier.Proofs.Entity.Writing
import Dossier.Proofs.Schema.Grammar

/-!
# Entity — equal values make entities alike

Values that are equal need not be written alike: the keys of an object may stand in another order, at
any depth, and a zero may have either sign.  The guard walks over the entries as they stand, and it
compares members of enumerations by a rule of its own.

* `Json.Same.of_equal`, `Variant.fitsPlain_of_equal`: a variant that nests nothing takes a value along
  with those that equal it.  An integer never equals a double, so it does not matter that a variant
  takes both.
* `Schema.accepts_of_equal`: so does a schema, by induction on the size of the value.
* `equal_accepted_alike`: equality being symmetric, the verdicts are the same, and an entity is made of
  both values or of neither.
-/

namespace Dossier

theorem Json.WellFormed.within {u v : Json} (hv : v.WellFormed) (h : u.Within v) :
    u.WellFormed := by
  induction h with
  | self => exact hv
  | item hu _ ih => exact ih (wellFormed_arr_iff.mp hv _ hu)
  | entry he _ ih => exact ih ((wellFormed_obj_iff.mp hv).2 _ he)

variable {registry : Registry} {mode : Mode} {u v : Json}

/-- The member that a value is, its equals are too. -/
theorem Json.Same.of_equal {member : Json} (h : u.equal v = true)
    (hs : member.Same Number.SameDouble u) : member.Same Number.SameDouble v := by
  cases member with
  | num m =>
      cases Json.equal_iff_alike.mp h with
      | num same => exact Number.agrees_of_equal same hs
      | _ => cases hs
  | _ => cases Json.equal_iff_alike.mp h <;> exact Json.equal_trans hs h

namespace Variant

variable {w : Variant}

theorem fitsPlain_of_equal (h : u.equal v = true) (hf : w.fitsPlain u = true) :
    w.fitsPlain v = true := by
  cases w with
  | enumeration name members =>
      have taken : hasMember members u = true := by cases u <;> exact hf
      obtain ⟨a, ha, same⟩ := hasMember_iff.mp taken
      have : hasMember members v = true := hasMember_iff.mpr ⟨a, ha, same.of_equal h⟩
      cases v <;> exact this
  | integer =>
      cases Json.equal_iff_alike.mp h with
      | num same =>
          obtain ⟨k, hk⟩ := Number.isWhole_iff.mp hf
          exact Number.isWhole_iff.mpr ⟨k, Number.value_eq_of_equal same ▸ hk⟩
      | _ => cases hf
  | json => cases v <;> rfl
  | _ => cases Json.equal_iff_alike.mp h <;> first | rfl | cases hf

/-- A value fits along with its equals, once the records of the nested schema do. -/
theorem fits_of_equal (h : u.equal v = true)
    (nested : ∀ s : Schema, s.accepts registry mode u = true → s.accepts registry mode v = true)
    (hf : w.fits registry mode u = true) : w.fits registry mode v = true := by
  cases hn : w.nested? registry with
  | none =>
      rw [fits_eq, hn] at hf ⊢
      exact fitsPlain_of_equal h hf
  | some s =>
      rw [fits_of_nested registry hn] at hf ⊢
      exact nested s hf

end Variant

/-- A property takes a value along with its equals, once its variants do so on the value and on its
items. -/
theorem Property.fits_of_equal {p : Property} (h : u.equal v = true)
    (variant : ∀ x y, x.Within u → x.equal y = true → ∀ w : Variant,
      w.fits registry mode x = true → w.fits registry mode y = true)
    (hp : p.fits registry mode u = true) : p.fits registry mode v = true := by
  rw [fits_iff] at hp ⊢
  cases ha : p.isArray with
  | false =>
      simp only [ha] at hp ⊢
      obtain ⟨w, hw, hf⟩ := hp
      exact ⟨w, hw, variant u v (.self u) h w hf⟩
  | true =>
      simp only [ha, if_true] at hp ⊢
      obtain ⟨items, rfl, taken⟩ := hp
      cases Json.equal_iff_alike.mp h with
      | @arr _ others equal =>
          rw [List.forall₂_iff_get] at equal
          refine ⟨others, rfl, fun y hy => ?_⟩
          obtain ⟨i, hi, rfl⟩ := List.getElem_of_mem hy
          have hj : i < items.length := equal.1 ▸ hi
          obtain ⟨w, hw, hf⟩ := taken items[i] (List.getElem_mem hj)
          exact ⟨w, hw, variant _ _ (.item (List.getElem_mem hj) (.self _)) (equal.2 i hj hi) w hf⟩

/-- **A schema accepts a value along with its equals.** -/
theorem Schema.accepts_of_equal {u v : Json} (hu : u.WellFormed) (h : u.equal v = true)
    {s : Schema} (ha : s.accepts registry mode u = true) : s.accepts registry mode v = true := by
  obtain ⟨fields, rfl⟩ := exists_obj_of_accepts ha
  obtain ⟨keys, holds⟩ := accepts_obj_iff.mp ha
  cases Json.equal_iff_alike.mp h with
  | @obj _ others _ _ =>
      refine accepts_obj_iff.mpr ⟨keysPass_iff.mpr fun dev key hk => ?_, fun p hp => ?_⟩
      · exact keysPass_iff.mp keys dev key ((Json.keys_perm_of_equal hu.nodup h).mem_iff.mpr hk)
      · have found := holds p hp
        have related := Json.find?_of_equal hu.nodup h p.name
        generalize hx : Fields.find? fields p.name = x at found related
        generalize Fields.find? others p.name = y at related
        cases related with
        | none => exact found
        | some equal =>
            refine Property.fits_of_equal equal (fun x y hw hxy w hf => ?_) found
            -- what stands in an entry is smaller than the record
            have within : x.Within (.obj fields) := .entry (Fields.mem_of_find? hx) hw
            have : sizeOf x < sizeOf (Json.obj fields) :=
              Nat.lt_of_le_of_lt hw.sizeOf_le (Json.sizeOf_lt_of_find? hx)
            exact Variant.fits_of_equal hxy
              (fun t ht => accepts_of_equal (hu.within within) hxy ht) hf
termination_by sizeOf u

/-- **Equal values are accepted alike.**  They get one verdict from every schema and every variant, and
an entity can be made of both or of neither. -/
theorem equal_accepted_alike (registry : Registry) (mode : Mode) {u v : Json} (hu : u.WellFormed)
    (h : u.equal v = true) :
    (∀ s : Schema, s.accepts registry mode u = s.accepts registry mode v)
    ∧ (∀ w : Variant, w.accepts registry mode (.json u) = w.accepts registry mode (.json v))
    ∧ ∀ s : Schema, (∃ e, Entity.ofDto registry s u mode = .ok e) ↔
        ∃ e, Entity.ofDto registry s v mode = .ok e := by
  have back : v.equal u = true := hu.equal_symm h
  have hv : v.WellFormed := hu.of_equal h
  have schemas (s : Schema) : s.accepts registry mode u = s.accepts registry mode v :=
    Bool.eq_iff_iff.mpr ⟨s.accepts_of_equal hu h, s.accepts_of_equal hv back⟩
  refine ⟨schemas, fun w => Bool.eq_iff_iff.mpr ⟨?_, ?_⟩, fun s => ?_⟩
  · exact Variant.fits_of_equal h fun s ha => schemas s ▸ ha
  · exact Variant.fits_of_equal back fun s ha => (schemas s).symm ▸ ha
  · rw [Entity.exists_ofDto_iff, Entity.exists_ofDto_iff, schemas s]

/-- A crate of the one size there is, with perhaps a crate in it. -/
def Schema.crate : Schema :=
  .mk 0 "Crate" [
    .mk "size" [.enumeration "Size" [.obj [("width", .num (.int 40 (by decide))),
      ("gap", .num (.real (.zero false)))]]] false,
    .mk "weight" [.integer] false, .mk "inner" [.reference "Crate", .null] false]

def Registry.crates : Registry := ⟨[("Crate", Schema.crate)], by decide, by decide⟩

/-- A crate in a crate, both without weight. -/
def Json.crate : Json :=
  .obj [("size", .obj [("width", .num (.int 40 (by decide))), ("gap", .num (.real (.zero true)))]),
    ("weight", .num (.real (.zero false))),
    ("inner", .obj [("size", .obj [("gap", .num (.real (.zero false))),
      ("width", .num (.int 40 (by decide)))]), ("weight", .zero), ("inner", .null)])]

/-- The same with other signs, and everything in another order. -/
def Json.repacked : Json :=
  .obj [("inner", .obj [("inner", .null), ("weight", .zero),
      ("size", .obj [("width", .num (.int 40 (by decide))), ("gap", .num (.real (.zero true)))])]),
    ("weight", .num (.real (.zero true))),
    ("size", .obj [("gap", .num (.real (.zero false))), ("width", .num (.int 40 (by decide)))])]

theorem equal_accepted_alike_crate :
    Json.crate.WellFormed ∧ Json.crate.equal Json.repacked = true
      ∧ Schema.crate.accepts .crates .development Json.crate = true
      ∧ Schema.crate.accepts .crates .development Json.repacked = true
      ∧ ∃ e, Entity.ofDto .crates Schema.crate Json.repacked .development = .ok e := by
  have wellFormed : Json.crate.WellFormed := by
    simp [Json.crate, Json.zero, Json.WellFormed, Json.WellFormedFields, Fields.Nodup, Fields.keys]
  have equal : Json.crate.equal Json.repacked = true := by decide +kernel
  have accepted : Schema.crate.accepts .crates .development Json.crate = true := by decide +kernel
  obtain ⟨schemas, -, entities⟩ := equal_accepted_alike .crates .development wellFormed equal
  exact ⟨wellFormed, equal, accepted, schemas Schema.crate ▸ accepted,
    (entities Schema.crate).mp ⟨⟨Schema.crate, _, .development⟩,
      Entity.ofDto_eq_ok_iff.mpr ⟨accepted, rfl, rfl, rfl⟩⟩⟩

end Dossier
