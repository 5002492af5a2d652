import Dossier.Json.Basic

/-!
# Json — well-formed tables under the operations

Reading keeps to values in which no object names a key twice.

* `Fields.find?_reverse`: in a table with distinct names the last entry of a name is its first.
* `Json.sizeOf_lt_of_find?`: what stands in a value is smaller than the value.
* `Json.WellFormed.insert`, `Json.WellFormed.update`: writing well-formed values into a well-formed
  object leaves it well-formed.
-/

namespace Dossier

namespace Fields

variable {α : Type}

/-- In a table with distinct names the last entry of a name is its first. -/
theorem find?_reverse {t : Fields α} (h : Nodup t) (name : String) :
    find? t.reverse name = find? t name := by
  induction t with
  | nil => rfl
  | cons e rest ih =>
      obtain ⟨k, v⟩ := e
      obtain ⟨hk, hr⟩ := nodup_cons.mp h
      rw [List.reverse_cons, find?_append, ih hr]
      by_cases he : k = name
      · subst he
        simp [find?, hk]
      · simp [find?, he]

/-- Of a table with distinct names written over another, the second's entries count. -/
theorem find?_update_of_nodup (t : Fields α) {u : Fields α} (h : Nodup u) (name : String) :
    find? (update t u) name = (find? u name).or (find? t name) := by
  rw [find?_update, find?_reverse h]

end Fields

namespace Json

/-! ### Nested values are smaller -/

theorem sizeOf_lt_of_mem {items : List Json} {v : Json} (h : v ∈ items) :
    sizeOf v < sizeOf (Json.arr items) := by
  have := List.sizeOf_lt_of_mem h
  simp only [Json.arr.sizeOf_spec]
  omega

theorem sizeOf_lt_of_entry {fields : Fields Json} {e : String × Json} (h : e ∈ fields) :
    sizeOf e.2 < sizeOf (Json.obj fields) := by
  obtain ⟨k, v⟩ := e
  have := List.sizeOf_lt_of_mem h
  simp only [Prod.mk.sizeOf_spec, Json.obj.sizeOf_spec] at this ⊢
  omega

theorem sizeOf_lt_of_find? {fields : Fields Json} {name : String} {v : Json}
    (h : Fields.find? fields name = some v) : sizeOf v < sizeOf (Json.obj fields) :=
  sizeOf_lt_of_entry (Fields.mem_of_find? h)

/-! ### Well-formed values -/

theorem wellFormed_obj_iff {fields : Fields Json} :
    WellFormed (.obj fields) ↔ Fields.Nodup fields ∧ ∀ e ∈ fields, WellFormed e.2 := by
  rw [WellFormed, wellFormedFields_iff]

theorem wellFormed_arr_iff {items : List Json} :
    WellFormed (.arr items) ↔ ∀ v ∈ items, WellFormed v := by
  rw [WellFormed, wellFormedItems_iff]

namespace WellFormed

variable {fields other : Fields Json} {name : String} {v : Json}

theorem nodup (h : WellFormed (.obj fields)) : Fields.Nodup fields := (wellFormed_obj_iff.mp h).1

/-- A value in a well-formed object is well-formed. -/
theorem find? (h : WellFormed (.obj fields)) (hv : Fields.find? fields name = some v) :
    WellFormed v :=
  (wellFormed_obj_iff.mp h).2 _ (Fields.mem_of_find? hv)

theorem insert (h : WellFormed (.obj fields)) (name : String) (hv : WellFormed v) :
    WellFormed (.obj (Fields.insert fields name v)) := by
  refine wellFormed_obj_iff.mpr ⟨Fields.nodup_insert h.nodup name v, fun e he => ?_⟩
  rcases Fields.mem_of_mem_insert he with rfl | he
  · exact hv
  · exact (wellFormed_obj_iff.mp h).2 e he

theorem update (h : WellFormed (.obj fields)) (ho : WellFormed (.obj other)) :
    WellFormed (.obj (Fields.update fields other)) := by
  replace ho := (wellFormed_obj_iff.mp ho).2
  rw [Fields.update]
  induction other generalizing fields with
  | nil => exact h
  | cons e rest ih =>
      exact ih (h.insert e.1 (ho e (List.mem_cons_self ..)))
        fun d hd => ho d (List.mem_cons_of_mem _ hd)

end WellFormed

end Json

end Dossier
