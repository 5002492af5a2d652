import Dossier.Proofs.Json.WellFormed

/-!
# Fields — a table is its names and what is read under them

* `Fields.eq_of_find?`: tables of the same distinct names in one order, under which the same is read,
  are equal.  So two equations say what an operation makes of a table, one for the names and one for
  the look-ups.
* `Fields.placed`: what a write in order makes of the names (`Fields.keys_insertInOrder`).  A new name
  has them all arranged, so of two new names it does not show which came first
  (`Fields.placed_comm`).
* `Fields.keys_update`: of tables written one over the other, each name stands where it first
  occurred.
* `Fields.update_eq_self`: a table whose names begin with those of another replaces it altogether.
* `Fields.keys_foldl`: entries with distinct names written one by one add the names that are new, in
  their order.  `Fields.Overlays` says so of a table written over another one
  (`Fields.overlays_iff`).
-/

namespace Dossier.Fields

variable {α : Type} {t u : Fields α}

/-- Tables of the same distinct names that are read alike are equal. -/
theorem eq_of_find? (ht : Nodup t) (hk : keys t = keys u)
    (h : ∀ name, find? t name = find? u name) : t = u := by
  induction t generalizing u with
  | nil =>
      cases u with
      | nil => rfl
      | cons f others => cases hk
  | cons e rest ih =>
      cases u with
      | nil => cases hk
      | cons f others =>
          obtain ⟨k, v⟩ := e
          obtain ⟨l, w⟩ := f
          simp only [keys, List.map_cons, List.cons.injEq] at hk
          obtain ⟨rfl, hk⟩ := hk
          obtain ⟨hn, ht⟩ := nodup_cons.mp ht
          obtain rfl : v = w := by simpa [find?] using h k
          have none : find? others k = none :=
            (find?_eq_none_iff others k).mpr fun hm => (find?_eq_none_iff rest k).mp hn
              (by rwa [keys, hk])
          refine congrArg _ (ih ht hk fun name => ?_)
          by_cases he : k = name
          · subst he
            rw [hn, none]
          · simpa [find?, he] using h name

/-! ### The names after a write or a removal -/

theorem keys_erase (t : Fields α) (name : String) :
    keys (erase t name) = (keys t).filter (· ≠ name) := by
  simp only [keys, erase, List.filter_map, Function.comp_def]

/-- Names as an order arranges them: those of the order first, in its order, and then the others as
they stood. -/
def arranged (order names : List String) : List String :=
  order.filter (· ∈ names) ++ names.filter (· ∉ order)

section Arranged

variable {order names others : List String}

@[simp] theorem mem_arranged {name : String} : name ∈ arranged order names ↔ name ∈ names := by
  by_cases h : name ∈ order <;> simp [arranged, h]

theorem filter_cons_rest {name : String} (h : name ∈ order) :
    (name :: names).filter (· ∉ order) = names.filter (· ∉ order) :=
  List.filter_cons_of_neg (by simpa using h)

/-- The names that the order does not have stay as they stood. -/
theorem filter_arranged_rest :
    (arranged order names).filter (· ∉ order) = names.filter (· ∉ order) := by
  have none : (order.filter (· ∈ names)).filter (· ∉ order) = [] :=
    List.filter_eq_nil_iff.mpr fun name hm => by simpa using (List.mem_filter.mp hm).1
  rw [arranged, List.filter_append, none, List.nil_append, List.filter_filter]
  simp only [Bool.and_self]

/-- The same names are arranged alike when those that the order does not have stand alike. -/
theorem arranged_congr (h : ∀ name, name ∈ names ↔ name ∈ others)
    (rest : names.filter (· ∉ order) = others.filter (· ∉ order)) :
    arranged order names = arranged order others := by
  simp only [arranged, rest, h]

/-- What is left of arranged names is arranged. -/
theorem filter_arranged (keep : String → Bool) :
    (arranged order names).filter keep = arranged order (names.filter keep) := by
  simp only [arranged, List.filter_append, List.filter_filter, List.mem_filter]
  congr 1
  · exact List.filter_congr fun name _ => by cases keep name <;> simp
  · exact List.filter_congr fun name _ => Bool.and_comm _ _

/-- Names after one of them is written in order: they stay as they are when it is there, and are
arranged with it when it is new. -/
def placed (order names : List String) (name : String) : List String :=
  if name ∈ names then names else arranged order (name :: names)

theorem placed_of_mem {name : String} (h : name ∈ names) : placed order names name = names :=
  if_pos h

theorem mem_placed {name other : String} :
    other ∈ placed order names name ↔ other = name ∨ other ∈ names := by
  by_cases h : name ∈ names
  · rw [placed_of_mem h]
    exact ⟨.inr, Or.rec (fun he => he ▸ h) id⟩
  · rw [placed, if_neg h, mem_arranged, List.mem_cons]

/-- Of two new names it does not show which came first, since both are arranged. -/
theorem placed_comm {a b : String} (h : a ≠ b) (ha : a ∈ order) (hb : b ∈ order) :
    placed order (placed order names a) b = placed order (placed order names b) a := by
  by_cases hma : a ∈ names
  · rw [placed_of_mem hma, placed_of_mem (mem_placed.mpr (.inr hma))]
  by_cases hmb : b ∈ names
  · rw [placed_of_mem hmb, placed_of_mem (mem_placed.mpr (.inr hmb))]
  have newb : b ∉ arranged order (a :: names) := by simp [hmb, h.symm]
  have newa : a ∉ arranged order (b :: names) := by simp [hma, h]
  simp only [placed, hma, hmb, newa, newb, if_false]
  refine arranged_congr (fun name => ?_) ?_
  · simp only [List.mem_cons, mem_arranged]
    exact or_left_comm
  · -- neither name is among those that stay as they stood
    simp only [filter_cons_rest ha, filter_cons_rest hb, filter_arranged_rest]

theorem filter_placed {a b : String} (h : a ≠ b) :
    (placed order names a).filter (· ≠ b) = placed order (names.filter (· ≠ b)) a := by
  by_cases hm : a ∈ names
  · rw [placed_of_mem hm, placed_of_mem (List.mem_filter.mpr ⟨hm, by simpa using h⟩)]
  · have new : a ∉ names.filter (· ≠ b) := fun hf => hm (List.mem_filter.mp hf).1
    rw [placed, placed, if_neg hm, if_neg new, filter_arranged,
      List.filter_cons_of_pos (by simpa using h)]

end Arranged

/-- A write in order places its name. -/
theorem keys_insertInOrder {order : List String} (t : Fields α) {name : String} (value : α)
    (h : name ∈ order) :
    keys (insertInOrder order t name value) = placed order (keys t) name := by
  rw [insertInOrder, placed]
  by_cases hn : name ∈ keys t
  · rw [if_pos ((contains_iff_mem t name).mpr hn), keys_insert, if_pos hn, if_pos hn]
  · have split : keys (select ((name, value) :: t) order ++ without t order)
        = keys (select ((name, value) :: t) order) ++ keys (without t order) :=
      List.map_append
    have present : contains ((name, value) :: t) = fun other => decide (other ∈ name :: keys t) := by
      funext other
      rw [Bool.eq_iff_iff, contains_iff_mem, decide_eq_true_eq]
      rfl
    rw [if_neg (by rwa [contains_iff_mem]), if_neg hn, split, keys_select, keys_without, arranged,
      filter_cons_rest h, present]

/-! ### The names after tables are written over one another -/

/-- Distinct names occur first where they stand. -/
theorem eraseDups_of_nodup {names : List String} (h : names.Nodup) : names.eraseDups = names := by
  induction names with
  | nil => rfl
  | cons name rest ih =>
      obtain ⟨hn, hr⟩ := List.nodup_cons.mp h
      have all : rest.filter (fun other => ! other == name) = rest :=
        List.filter_eq_self.mpr fun other ho => by
          have hne : other ≠ name := fun he => hn (he ▸ ho)
          simpa using hne
      rw [List.eraseDups_cons, all, ih hr]

/-- Names that occurred before are left out. -/
theorem eraseDups_append_of_subset {names seen : List String} (h : seen ⊆ names)
    (rest : List String) : (names ++ (seen ++ rest)).eraseDups = (names ++ rest).eraseDups := by
  have none : seen.removeAll names = [] :=
    List.filter_eq_nil_iff.mpr fun name hn => by simpa using h hn
  have split : (seen ++ rest).removeAll names = seen.removeAll names ++ rest.removeAll names :=
    List.filter_append ..
  rw [List.eraseDups_append, List.eraseDups_append, split, none, List.nil_append]

theorem eraseDups_concat (names : List String) (name : String) : (names ++ [name]).eraseDups
    = if name ∈ names then names.eraseDups else names.eraseDups ++ [name] := by
  rw [List.eraseDups_append]
  split
  · next known => simp [List.removeAll, known]
  · next new =>
      have alone : [name].removeAll names = [name] := by simp [List.removeAll, new]
      rw [alone, eraseDups_of_nodup (List.pairwise_singleton _ name)]

/-- Of a table written over another one, each name stands where it first occurred. -/
theorem keys_update (ht : Nodup t) (u : Fields α) :
    keys (update t u) = (keys t ++ keys u).eraseDups := by
  induction u generalizing t with
  | nil =>
      have all : keys t ++ keys ([] : Fields α) = keys t := List.append_nil _
      rw [all, eraseDups_of_nodup ht]
      rfl
  | cons e rest ih =>
      have step : keys (update t (e :: rest)) = (keys (insert t e.1 e.2) ++ keys rest).eraseDups :=
        ih (nodup_insert ht e.1 e.2)
      rw [step, keys_insert]
      split
      · next h =>
        have before : [e.1] ⊆ keys t := by simpa using h
        exact (eraseDups_append_of_subset before _).symm
      · rw [List.append_assoc, List.singleton_append]
        rfl

/-- The names of the table below stay in front. -/
theorem keys_prefix_update (t u : Fields α) : keys t <+: keys (update t u) := by
  induction u generalizing t with
  | nil => exact List.prefix_rfl
  | cons e rest ih =>
      have step : keys t <+: keys (insert t e.1 e.2) := by
        rw [keys_insert]
        split
        · exact List.prefix_rfl
        · exact List.prefix_append ..
      exact step.trans (ih _)

/-- A table whose names begin with those of another one replaces it when it is written over it. -/
theorem update_eq_self (ht : Nodup t) (hu : Nodup u) (h : keys t <+: keys u) : update t u = u := by
  refine eq_of_find? (nodup_update ht u) ?_ fun name => ?_
  · obtain ⟨rest, hr⟩ := h
    rw [keys_update ht, ← hr, eraseDups_append_of_subset (List.Subset.refl _), hr,
      eraseDups_of_nodup hu]
  · rw [find?_update_of_nodup t hu]
    cases hn : find? u name with
    | some value => rfl
    | none =>
        have : name ∉ keys t := fun hm => (find?_eq_none_iff u name).mp hn (h.mem hm)
        rw [(find?_eq_none_iff t name).mpr this, Option.none_or]

theorem isSome_find? (t : Fields α) (name : String) :
    (find? t name).isSome = decide (name ∈ keys t) := by
  rw [Bool.eq_iff_iff, decide_eq_true_iff]
  exact contains_iff_mem t name

/-! ### Entries written one by one -/

/-- Steps that each add the name of their entry, if it is new and one to keep, add the new names to
keep in their order. -/
theorem keys_foldl {step : Fields α → String × α → Fields α} {keep : String → Prop}
    [DecidablePred keep]
    (h : ∀ t e, keys (step t e) = if keep e.1 ∧ e.1 ∉ keys t then keys t ++ [e.1] else keys t)
    (hu : Nodup u) (t : Fields α) :
    keys (u.foldl step t) = keys t ++ (keys u).filter fun name => keep name ∧ name ∉ keys t := by
  induction u generalizing t with
  | nil => exact (List.append_nil _).symm
  | cons e rest ih =>
      obtain ⟨new, hr⟩ := List.nodup_cons.mp hu
      rw [List.foldl_cons, ih hr, h]
      by_cases he : keep e.1 ∧ e.1 ∉ keys t
      · -- a name that has been added does not come again
        have rest_eq : (keys rest).filter (fun name => keep name ∧ name ∉ keys t ++ [e.1])
            = (keys rest).filter fun name => keep name ∧ name ∉ keys t :=
          List.filter_congr fun name hn => by
            have : name ≠ e.1 := fun eq => new (eq ▸ hn)
            simp [this]
        rw [if_pos he, rest_eq, List.append_assoc, List.singleton_append]
        exact congrArg _ (List.filter_cons_of_pos (by simpa using he)).symm
      · rw [if_neg he]
        exact congrArg _ (List.filter_cons_of_neg (by simpa using he)).symm

/-- The table comes of writing `own` over `base`: the names of `base` stand first, as they stood
there, and the new ones follow in the order of `own`; the values of `own` count. -/
structure Overlays (base own table : Fields α) : Prop where
  keys : Fields.keys table
    = Fields.keys base ++ (Fields.keys own).filter fun name => name ∉ Fields.keys base
  find? (name : String) : Fields.find? table name
    = (Fields.find? own name).or (Fields.find? base name)

theorem overlays_update {base own : Fields α} (ho : Nodup own) :
    Overlays base own (update base own) where
  keys := by
    have added : keys (update base own)
        = keys base ++ (keys own).filter fun name => True ∧ name ∉ keys base :=
      keys_foldl (fun t e => by rw [keys_insert]; simp) ho base
    simpa only [true_and] using added
  find? := find?_update_of_nodup base ho

/-- There is one such table. -/
theorem overlays_iff {base own table : Fields α} (hb : Nodup base) (ho : Nodup own) :
    Overlays base own table ↔ update base own = table := by
  have written : Overlays base own (update base own) := overlays_update ho
  refine ⟨fun h => ?_, fun h => h ▸ written⟩
  exact eq_of_find? (nodup_update hb own) (written.keys.trans h.keys.symm) fun name =>
    (written.find? name).trans (h.find? name).symm

end Dossier.Fields
