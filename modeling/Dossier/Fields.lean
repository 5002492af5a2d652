/-!
# Fields — named values in the order they were written

A table pairs names with values and keeps the order in which the names were first written.
Writing a name that is there replaces its value in place; a new name goes to the end.

* `find?_insert`, `find?_erase`, `find?_insertInOrder`: a write is read back and disturbs no other
  name.
* `find?_update`: of the entries written over a table the last of a name counts.
* `keys_insert`: a write adds at most its own name, at the end.
* `nodup_insert`, `nodup_erase`, `nodup_insertInOrder`: distinct names stay distinct.
* `find?_of_mem`, `mem_of_find?`: where names are distinct, an entry is what is read under its name.

Tables are plain lists, so that values can nest them; that names are distinct is the predicate
`Fields.Nodup`, which every operation here keeps.
-/

namespace Dossier

/-- A table of named values, first written first. -/
abbrev Fields (α : Type) := List (String × α)

namespace Fields

variable {α : Type}

/-- The names, in order. -/
def keys (t : Fields α) : List String := t.map Prod.fst

/-- No name occurs twice. -/
def Nodup (t : Fields α) : Prop := (keys t).Nodup

instance (t : Fields α) : Decidable (Nodup t) := inferInstanceAs (Decidable (keys t).Nodup)

/-- The value under a name. -/
def find? : Fields α → String → Option α
  | [], _ => none
  | (k, v) :: rest, name => if k = name then some v else find? rest name

/-- Is there a value under the name? -/
def contains (t : Fields α) (name : String) : Bool := (find? t name).isSome

/-- Writes a value: in place when the name is there, at the end otherwise. -/
def insert : Fields α → String → α → Fields α
  | [], name, value => [(name, value)]
  | (k, v) :: rest, name, value =>
    if k = name then (k, value) :: rest else (k, v) :: insert rest name value

/-- Leaves a name out; the others keep their order. -/
def erase (t : Fields α) (name : String) : Fields α := t.filter fun e => e.1 ≠ name

/-- Writes the entries of `u` over `t`, first to last. -/
def update (t u : Fields α) : Fields α := u.foldl (fun t e => insert t e.1 e.2) t

/-- The entries of a list in which a later entry replaces an earlier one of the same name. -/
def ofList (entries : List (String × α)) : Fields α := update [] entries

/-- The entries under the given names, in the order of the names. -/
def select (t : Fields α) (names : List String) : Fields α :=
  names.filterMap fun name => (find? t name).map (name, ·)

/-- The entries under none of the given names. -/
def without (t : Fields α) (names : List String) : Fields α := t.filter fun e => e.1 ∉ names

/-- Writes a value so that a new name of `order` finds its place there: in place when the name
is present; otherwise the names of `order` come first, in that order, and the rest follow. -/
def insertInOrder (order : List String) (t : Fields α) (name : String) (value : α) : Fields α :=
  if contains t name then insert t name value
  else select ((name, value) :: t) order ++ without t order

/-! ### Reading after writing -/

@[simp] theorem find?_nil (name : String) : find? ([] : Fields α) name = none := rfl

@[simp] theorem find?_insert_self (t : Fields α) (name : String) (value : α) :
    find? (insert t name value) name = some value := by
  induction t with
  | nil => simp [insert, find?]
  | cons e rest ih => by_cases h : e.1 = name <;> simp [insert, find?, h, ih]

theorem find?_insert_of_ne (t : Fields α) {name other : String} (value : α) (h : name ≠ other) :
    find? (insert t name value) other = find? t other := by
  induction t with
  | nil => simp [insert, find?, h]
  | cons e rest ih =>
    by_cases hk : e.1 = name
    · simp [insert, find?, hk, h]
    · simp only [insert, hk, if_false, find?, ih]

theorem find?_insert (t : Fields α) (name other : String) (value : α) :
    find? (insert t name value) other = if name = other then some value else find? t other := by
  split
  · subst_vars; simp
  · next h => exact find?_insert_of_ne t value h

theorem find?_eq_none_iff (t : Fields α) (name : String) : find? t name = none ↔ name ∉ keys t := by
  induction t with
  | nil => simp [keys]
  | cons e rest ih =>
    by_cases h : e.1 = name
    · simp [find?, keys, h]
    · simpa [find?, keys, h, Ne.symm h] using ih

theorem contains_iff_mem (t : Fields α) (name : String) : contains t name ↔ name ∈ keys t := by
  rw [contains, Option.isSome_iff_ne_none, ne_eq, find?_eq_none_iff, Classical.not_not]

theorem find?_erase_self (t : Fields α) (name : String) : find? (erase t name) name = none := by
  simp [find?_eq_none_iff, erase, keys]

theorem find?_erase_of_ne (t : Fields α) {name other : String} (h : name ≠ other) :
    find? (erase t name) other = find? t other := by
  induction t with
  | nil => rfl
  | cons e rest ih =>
    unfold erase at ih ⊢
    by_cases hk : e.1 = name
    · simpa [find?, hk, h] using ih
    · rw [List.filter_cons_of_pos (by simpa using hk)]
      simp only [find?, ih]

theorem find?_erase (t : Fields α) (name other : String) :
    find? (erase t name) other = if name = other then none else find? t other := by
  split
  · subst_vars; exact find?_erase_self t _
  · next h => exact find?_erase_of_ne t h

theorem find?_append (t u : Fields α) (name : String) :
    find? (t ++ u) name = (find? t name).or (find? u name) := by
  induction t with
  | nil => simp
  | cons e rest ih => by_cases h : e.1 = name <;> simp [find?, h, ih]

/-- Of the entries written over a table the last of a name counts. -/
theorem find?_update (t u : Fields α) (name : String) :
    find? (update t u) name = (find? u.reverse name).or (find? t name) := by
  induction u generalizing t with
  | nil => simp [update]
  | cons e rest ih =>
    have h := ih (insert t e.1 e.2)
    simp only [update, List.foldl_cons, List.reverse_cons, find?_append] at h ⊢
    rw [h, find?_insert]
    by_cases hn : e.1 = name <;> simp [find?, hn]

theorem find?_select (t : Fields α) (names : List String) (name : String) :
    find? (select t names) name = if name ∈ names then find? t name else none := by
  unfold select
  induction names with
  | nil => simp
  | cons n rest ih =>
    cases hn : find? t n with
    | none =>
      simp only [List.filterMap_cons, hn, Option.map_none, ih, List.mem_cons]
      by_cases h : name = n
      · subst h; simp [hn]
      · simp [h]
    | some v =>
      simp only [List.filterMap_cons, hn, Option.map_some, find?, ih, List.mem_cons]
      by_cases h : n = name
      · subst h; simp [hn]
      · simp [h, Ne.symm h]

theorem find?_without (t : Fields α) (names : List String) (name : String) :
    find? (without t names) name = if name ∈ names then none else find? t name := by
  unfold without
  induction t with
  | nil => simp
  | cons e rest ih =>
    by_cases he : e.1 ∈ names
    · rw [List.filter_cons_of_neg (by simpa using he), ih]
      by_cases h : e.1 = name
      · subst h; simp [he]
      · simp [find?, h]
    · rw [List.filter_cons_of_pos (by simpa using he)]
      by_cases h : e.1 = name
      · subst h; simp [find?, he]
      · simp only [find?, h, if_false, ih]

theorem find?_insertInOrder {order : List String} (t : Fields α) {name : String} (value : α)
    (h : name ∈ order) (other : String) :
    find? (insertInOrder order t name value) other
      = if name = other then some value else find? t other := by
  unfold insertInOrder
  split
  · exact find?_insert t name other value
  · rw [find?_append, find?_select, find?_without]
    by_cases hn : name = other
    · subst hn; simp [h, find?]
    · by_cases ho : other ∈ order <;> simp [ho, hn, find?]

/-! ### The names after writing -/

theorem keys_insert (t : Fields α) (name : String) (value : α) :
    keys (insert t name value) = if name ∈ keys t then keys t else keys t ++ [name] := by
  induction t with
  | nil => simp [insert, keys]
  | cons e rest ih =>
    by_cases h : e.1 = name
    · simp [insert, keys, h]
    · unfold keys at ih
      by_cases hm : name ∈ rest.map Prod.fst <;>
        simp_all [insert, keys, Ne.symm h]

theorem nodup_insert {t : Fields α} (h : Nodup t) (name : String) (value : α) :
    Nodup (insert t name value) := by
  unfold Nodup at h ⊢
  rw [keys_insert]
  split
  · exact h
  · next hn =>
    refine List.nodup_append.2 ⟨h, by simp, ?_⟩
    intro a ha b hb
    simp only [List.mem_singleton] at hb
    subst hb
    exact fun hab => hn (hab ▸ ha)

theorem nodup_erase {t : Fields α} (h : Nodup t) (name : String) : Nodup (erase t name) :=
  List.Sublist.nodup (List.Sublist.map _ List.filter_sublist) h

theorem nodup_update {t : Fields α} (h : Nodup t) (u : Fields α) : Nodup (update t u) := by
  induction u generalizing t with
  | nil => exact h
  | cons e rest ih => exact ih (nodup_insert h e.1 e.2)

theorem nodup_ofList (entries : List (String × α)) : Nodup (ofList entries) :=
  nodup_update (by simp [Nodup, keys]) entries

theorem keys_select (t : Fields α) (names : List String) :
    keys (select t names) = names.filter (contains t) := by
  unfold keys select
  induction names with
  | nil => rfl
  | cons n rest ih => cases h : find? t n <;> simp [contains, h, ih]

theorem keys_without (t : Fields α) (names : List String) :
    keys (without t names) = (keys t).filter (· ∉ names) := by
  simp only [keys, without, List.filter_map, Function.comp_def]

/-- What is selected and what is not have no name in common. -/
theorem nodup_select_append_without {names : List String} (ho : names.Nodup) (t : Fields α)
    {u : Fields α} (h : Nodup u) : Nodup (select t names ++ without u names) := by
  simp only [Nodup, keys, List.map_append]
  rw [← keys, ← keys, keys_select, keys_without]
  refine List.nodup_append.2 ⟨ho.filter _, h.filter _, fun a ha b hb hab => ?_⟩
  have := (List.mem_filter.1 ha).1
  simp only [List.mem_filter, decide_eq_true_eq] at hb
  exact hb.2 (hab ▸ this)

theorem nodup_insertInOrder {order : List String} (ho : order.Nodup) {t : Fields α} (h : Nodup t)
    (name : String) (value : α) : Nodup (insertInOrder order t name value) := by
  unfold insertInOrder
  split
  · exact nodup_insert h name value
  · exact nodup_select_append_without ho _ h

/-! ### Entries -/

theorem nodup_cons {name : String} {value : α} {rest : Fields α} :
    Nodup ((name, value) :: rest) ↔ find? rest name = none ∧ Nodup rest := by
  rw [find?_eq_none_iff]
  exact List.nodup_cons

theorem mem_of_find? {t : Fields α} {name : String} {value : α} (h : find? t name = some value) :
    (name, value) ∈ t := by
  induction t with
  | nil => cases h
  | cons e rest ih =>
      obtain ⟨k, v⟩ := e
      by_cases hk : k = name
      · simp only [find?, hk, if_true, Option.some.injEq] at h
        rw [hk, h]
        exact List.mem_cons_self ..
      · simp only [find?, hk, if_false] at h
        exact List.mem_cons_of_mem _ (ih h)

/-- In a table with distinct names an entry is what stands under its name. -/
theorem find?_of_mem {t : Fields α} (h : Nodup t) {name : String} {value : α}
    (hm : (name, value) ∈ t) : find? t name = some value := by
  induction t with
  | nil => cases hm
  | cons e rest ih =>
      obtain ⟨k, v⟩ := e
      obtain ⟨hk, hr⟩ := nodup_cons.mp h
      rcases List.mem_cons.mp hm with hm | hm
      · cases hm
        exact if_pos rfl
      · have found := ih hr hm
        by_cases he : k = name
        · subst he
          cases hk.symm.trans found
        · rw [find?, if_neg he, found]

theorem mem_of_mem_insert {t : Fields α} {name : String} {value : α} {e : String × α}
    (h : e ∈ insert t name value) : e = (name, value) ∨ e ∈ t := by
  induction t with
  | nil => exact .inl (List.mem_singleton.mp h)
  | cons d rest ih =>
      obtain ⟨k, v⟩ := d
      by_cases hk : k = name
      · simp only [insert, hk, if_true] at h
        exact (List.mem_cons.mp h).imp_right (List.mem_cons_of_mem _)
      · simp only [insert, hk, if_false] at h
        rcases List.mem_cons.mp h with rfl | h
        · exact .inr (List.mem_cons_self ..)
        · exact (ih h).imp_right (List.mem_cons_of_mem _)

end Fields

end Dossier
