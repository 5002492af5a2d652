import Mathlib.Data.List.Nodup
import Mathlib.Data.List.Forall2
import Mathlib.Data.List.Perm.Subperm
import Mathlib.Data.Option.Basic
import Dossier.Json.Equality
import Dossier.Proofs.Json.WellFormed

/-!
# Json — when values are equal

* `Fields.perm_of_find?`: two tables with distinct names that are read alike hold the same entries.
* `Json.equal_obj_of_find?`: so they are equal as objects, whatever their order.
* `Json.WellFormed.equal_refl`: a well-formed value equals itself.
* `Json.equal_iff_alike`: how two values look that are equal.
* `Json.keys_perm_of_equal`, `Json.find?_of_equal`: equal objects have the same names, and equal values
  under them.
* `Json.equal_trans`, `Json.WellFormed.equal_symm`: equality is an equivalence of well-formed values.
-/

namespace Dossier

/-- Tables with distinct names that are read alike differ in their order only. -/
theorem Fields.perm_of_find? {α : Type} {t u : Fields α} (ht : Nodup t) (hu : Nodup u)
    (h : ∀ name, find? t name = find? u name) : t.Perm u := by
  refine (List.perm_ext_iff_of_nodup (List.Nodup.of_map _ ht) (List.Nodup.of_map _ hu)).mpr ?_
  rintro ⟨name, value⟩
  constructor
  · intro hm
    exact mem_of_find? (h name ▸ find?_of_mem ht hm)
  · intro hm
    exact mem_of_find? ((h name).symm ▸ find?_of_mem hu hm)

/-- Doubles are finite, so that every number equals itself. -/
theorem Number.equal_refl (n : Number) : n.Equal n := by
  cases n with
  | int n _ => rfl
  | real x => exact .inl rfl

theorem Double.Equal.symm {x y : Double} (h : x.Equal y) : y.Equal x := h.imp Eq.symm And.symm

theorem Double.Equal.trans {x y z : Double} (h : x.Equal y) (h' : y.Equal z) : x.Equal z := by
  rcases h with rfl | ⟨hx, hy⟩
  · exact h'
  · rcases h' with rfl | ⟨-, hz⟩
    · exact .inr ⟨hx, hy⟩
    · exact .inr ⟨hx, hz⟩

namespace Number

variable {m n k : Number}

theorem Equal.symm (h : m.Equal n) : n.Equal m := by
  cases m with
  | int m _ =>
      cases n with
      | int n _ => exact Eq.symm (a := m) h
      | real y => cases h
  | real x =>
      cases n with
      | int n _ => cases h
      | real y => exact Double.Equal.symm (x := x) h

theorem Equal.trans (h : m.Equal n) (h' : n.Equal k) : m.Equal k := by
  cases m with
  | int m _ =>
      cases n with
      | int n _ => obtain rfl : m = n := h; exact h'
      | real y => cases h
  | real x =>
      cases n with
      | int n _ => cases h
      | real y =>
          cases k with
          | int k _ => cases h'
          | real z => exact Double.Equal.trans (x := x) (y := y) h h'

end Number

namespace Json

theorem equalItems_self {items : List Json} (h : ∀ v ∈ items, equal v v = true) :
    equalItems items items = true := by
  induction items with
  | nil => rfl
  | cons v rest ih =>
      simp only [equalItems, Bool.and_eq_true]
      exact ⟨h v (.head _), ih fun u hu => h u (.tail _ hu)⟩

theorem equalFields_iff {t u : Fields Json} :
    equalFields t u = true ↔
      ∀ e ∈ t, ∃ w, Fields.find? u e.1 = some w ∧ equal e.2 w = true := by
  induction t with
  | nil => simp [equalFields]
  | cons e rest ih =>
      obtain ⟨k, v⟩ := e
      simp only [equalFields, Bool.and_eq_true, ih, List.forall_mem_cons]
      cases Fields.find? u k <;> simp

/-- Objects that are read alike are equal, when their values equal themselves. -/
theorem equal_obj_of_find? {t u : Fields Json} (ht : Fields.Nodup t) (hu : Fields.Nodup u)
    (h : ∀ name, Fields.find? t name = Fields.find? u name)
    (values : ∀ e ∈ t, equal e.2 e.2 = true) : equal (.obj t) (.obj u) = true := by
  simp only [equal, Bool.and_eq_true, beq_iff_eq]
  refine ⟨(Fields.perm_of_find? ht hu h).length_eq, equalFields_iff.mpr fun e he => ?_⟩
  exact ⟨e.2, h e.1 ▸ Fields.find?_of_mem ht he, values e he⟩

/-- A well-formed value equals itself. -/
theorem WellFormed.equal_refl {v : Json} (h : v.WellFormed) : equal v v = true := by
  cases v with
  | null => rfl
  | bool b => simp only [equal, beq_self_eq_true]
  | num n => simpa only [equal, decide_eq_true_eq] using n.equal_refl
  | str s => simp only [equal, beq_self_eq_true]
  | arr items =>
      refine equalItems_self fun u hu => ?_
      have : sizeOf u < sizeOf (arr items) := sizeOf_lt_of_mem hu
      exact (wellFormed_arr_iff.mp h u hu).equal_refl
  | obj fields =>
      refine equal_obj_of_find? h.nodup h.nodup (fun _ => rfl) fun e he => ?_
      have : sizeOf e.2 < sizeOf (obj fields) := sizeOf_lt_of_entry he
      exact ((wellFormed_obj_iff.mp h).2 e he).equal_refl
termination_by sizeOf v

/-! ### An equivalence -/

theorem equalItems_iff {items others : List Json} :
    equalItems items others = true ↔
      List.Forall₂ (fun u v => equal u v = true) items others := by
  induction items generalizing others with
  | nil => cases others <;> simp [equalItems]
  | cons v rest ih => cases others <;> simp [equalItems, ih]

/-- How equal values look from outside. -/
inductive Alike : Json → Json → Prop where
  | null : Alike .null .null
  | bool (b : Bool) : Alike (.bool b) (.bool b)
  | num {m n : Number} (h : m.Equal n) : Alike (.num m) (.num n)
  | str (s : String) : Alike (.str s) (.str s)
  | arr {items others : List Json}
      (h : List.Forall₂ (fun u v => equal u v = true) items others) :
      Alike (.arr items) (.arr others)
  | obj {t u : Fields Json} (length : t.length = u.length)
      (entries : ∀ e ∈ t, ∃ w, Fields.find? u e.1 = some w ∧ equal e.2 w = true) :
      Alike (.obj t) (.obj u)

theorem equal_iff_alike {u v : Json} : equal u v = true ↔ Alike u v := by
  constructor
  · intro h
    cases u with
    | null =>
        cases v with
        | null => exact .null
        | _ => cases h
    | bool a =>
        cases v with
        | bool b =>
            obtain rfl : a = b := by simpa only [equal, beq_iff_eq] using h
            exact .bool a
        | _ => cases h
    | num m =>
        cases v with
        | num n => exact .num (by simpa only [equal, decide_eq_true_eq] using h)
        | _ => cases h
    | str s =>
        cases v with
        | str t =>
            obtain rfl : s = t := by simpa only [equal, beq_iff_eq] using h
            exact .str s
        | _ => cases h
    | arr items =>
        cases v with
        | arr others => exact .arr (equalItems_iff.mp h)
        | _ => cases h
    | obj t =>
        cases v with
        | obj u =>
            simp only [equal, Bool.and_eq_true, beq_iff_eq] at h
            exact .obj h.1 (equalFields_iff.mp h.2)
        | _ => cases h
  · intro h
    cases h with
    | null => rfl
    | bool b => simp only [equal, beq_self_eq_true]
    | num h => simpa only [equal, decide_eq_true_eq] using h
    | str s => simp only [equal, beq_self_eq_true]
    | arr h => exact equalItems_iff.mpr h
    | obj length entries =>
        simp only [equal, Bool.and_eq_true, beq_iff_eq]
        exact ⟨length, equalFields_iff.mpr entries⟩

theorem equal_trans {u v w : Json} (h : equal u v = true) (h' : equal v w = true) :
    equal u w = true := by
  rw [equal_iff_alike] at *
  cases h with
  | null | bool | str => exact h'
  | num h =>
      cases h' with
      | num h' => exact .num (h.trans h')
  | arr h =>
      cases h' with
      | arr h' =>
          rw [List.forall₂_iff_get] at h h'
          refine .arr (List.forall₂_iff_get.mpr ⟨h.1.trans h'.1, fun i hi hk => ?_⟩)
          have hj : i < _ := h.1 ▸ hi
          have : sizeOf (List.get _ ⟨i, hi⟩) < sizeOf (arr _) := sizeOf_lt_of_mem (List.get_mem ..)
          exact equal_trans (h.2 i hi hj) (h'.2 i hj hk)
  | obj length entries =>
      cases h' with
      | obj length' entries' =>
          refine .obj (length.trans length') fun e he => ?_
          obtain ⟨x, hx, ex⟩ := entries e he
          obtain ⟨y, hy, xy⟩ := entries' _ (Fields.mem_of_find? hx)
          have : sizeOf e.2 < sizeOf (obj _) := sizeOf_lt_of_entry he
          exact ⟨y, hy, equal_trans ex xy⟩
termination_by sizeOf u

/-- Of objects that are equal, the second has the names of the first, and no more. -/
theorem keys_perm_of_equal {t u : Fields Json} (ht : Fields.Nodup t)
    (h : equal (.obj t) (.obj u) = true) : (Fields.keys t).Perm (Fields.keys u) := by
  cases equal_iff_alike.mp h with
  | obj length entries =>
      have subset : Fields.keys t ⊆ Fields.keys u := by
        intro key hk
        obtain ⟨e, he, rfl⟩ := List.mem_map.mp hk
        obtain ⟨w, hw, -⟩ := entries e he
        exact List.mem_map.mpr ⟨_, Fields.mem_of_find? hw, rfl⟩
      -- the names are as many in both, so none is left over
      exact (List.subperm_of_subset ht subset).perm_of_length_le
        (by simp only [Fields.keys, List.length_map, length, Nat.le_refl])

/-- Equal objects have equal values under each name, or none. -/
theorem find?_of_equal {t u : Fields Json} (ht : Fields.Nodup t)
    (h : equal (.obj t) (.obj u) = true) (name : String) :
    Option.Rel (fun v w => equal v w = true) (Fields.find? t name) (Fields.find? u name) := by
  cases hf : Fields.find? t name with
  | some v =>
      cases equal_iff_alike.mp h with
      | obj _ entries =>
          obtain ⟨w, hw, he⟩ := entries _ (Fields.mem_of_find? hf)
          rw [hw]
          exact .some he
  | none =>
      have none : Fields.find? u name = none := by
        rw [Fields.find?_eq_none_iff, ← (keys_perm_of_equal ht h).mem_iff,
          ← Fields.find?_eq_none_iff, hf]
      rw [none]
      exact .none

/-- An entry of the second of two equal objects has an equal one in the first. -/
theorem exists_find?_of_equal {t u : Fields Json} (ht : Fields.Nodup t)
    (h : equal (.obj t) (.obj u) = true) {e : String × Json} (he : e ∈ u) :
    ∃ v, Fields.find? t e.1 = some v ∧ equal v e.2 = true := by
  have hu : Fields.Nodup u := (keys_perm_of_equal ht h).nodup_iff.mp ht
  have related := find?_of_equal ht h e.1
  rw [Fields.find?_of_mem hu he] at related
  generalize Fields.find? t e.1 = v at related
  cases related with
  | some equal => exact ⟨_, rfl, equal⟩

/-- What equals a well-formed value is well-formed. -/
theorem WellFormed.of_equal {u v : Json} (hu : u.WellFormed) (h : equal u v = true) :
    v.WellFormed := by
  cases equal_iff_alike.mp h with
  | null | bool | num | str => exact hu
  | arr items =>
      rw [wellFormed_arr_iff] at hu ⊢
      rw [List.forall₂_iff_get] at items
      intro w hw
      obtain ⟨i, hi, rfl⟩ := List.getElem_of_mem hw
      have hj : i < _ := items.1 ▸ hi
      have : sizeOf (List.get _ ⟨i, hj⟩) < sizeOf (arr _) := sizeOf_lt_of_mem (List.get_mem ..)
      exact (hu _ (List.get_mem ..)).of_equal (items.2 i hj hi)
  | obj length entries =>
      refine wellFormed_obj_iff.mpr ⟨(keys_perm_of_equal hu.nodup h).nodup_iff.mp hu.nodup,
        fun e he => ?_⟩
      obtain ⟨x, hx, equal⟩ := exists_find?_of_equal hu.nodup h he
      have : sizeOf x < sizeOf (obj _) := sizeOf_lt_of_find? hx
      exact (hu.find? hx).of_equal equal
termination_by sizeOf u

/-- **Equality of well-formed values is symmetric**, although it looks the entries of the first up in
the second. -/
theorem WellFormed.equal_symm {u v : Json} (hu : u.WellFormed) (h : equal u v = true) :
    equal v u = true := by
  rw [equal_iff_alike]
  cases equal_iff_alike.mp h with
  | null => exact .null
  | bool b => exact .bool b
  | str s => exact .str s
  | num same => exact .num same.symm
  | arr items =>
      rw [wellFormed_arr_iff] at hu
      rw [List.forall₂_iff_get] at items
      refine .arr (List.forall₂_iff_get.mpr ⟨items.1.symm, fun i hi hj => ?_⟩)
      have : sizeOf (List.get _ ⟨i, hj⟩) < sizeOf (arr _) := sizeOf_lt_of_mem (List.get_mem ..)
      exact (hu _ (List.get_mem ..)).equal_symm (items.2 i hj hi)
  | obj length entries =>
      refine .obj length.symm fun e he => ?_
      obtain ⟨x, hx, equal⟩ := exists_find?_of_equal hu.nodup h he
      have : sizeOf x < sizeOf (obj _) := sizeOf_lt_of_find? hx
      exact ⟨x, hx, (hu.find? hx).equal_symm equal⟩
termination_by sizeOf u

end Json

end Dossier
