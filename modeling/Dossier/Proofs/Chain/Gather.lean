import Dossier.Proofs.Chain.Merge

/-!
# Chain — records merged in a row

`Layout.mergeAll root children` merges the children onto the root one after the other.
`Layout.Gathered root children result` says what is under each field of a result: the root's name
and reference, the content of all in their order, under any other field the value of the nearest
record that has it, and under the keys of a keyed field of tables likewise.

* `Layout.Gathered.mergeOnto`: one more merge gathers one more record.
* `Layout.gathered_mergeAll`: so merging in a row gathers them all.
* `Layout.find?_mergeAll_content`: the content is an array as soon as anything is merged.
-/

namespace Dossier

/-! ### The nearest record -/

/-- The last value that a list of records has, the nearest record being the last. -/
def nearest? (value? : Fields Json → Option Json) (records : List (Fields Json)) : Option Json :=
  records.reverse.findSome? value?

theorem nearest?_concat (value? : Fields Json → Option Json) (records : List (Fields Json))
    (child : Fields Json) :
    nearest? value? (records ++ [child]) = (value? child).or (nearest? value? records) := by
  rw [nearest?, List.reverse_append, List.reverse_singleton, List.singleton_append,
    List.findSome?_cons]
  cases value? child <;> rfl

theorem nearest?_singleton (value? : Fields Json → Option Json) (record : Fields Json) :
    nearest? value? [record] = value? record :=
  (nearest?_concat value? [] record).trans Option.or_none

/-- The value under a key of the table under a field. -/
def cell? (field key : String) (record : Fields Json) : Option Json :=
  ((Fields.find? record field).bind Json.obj?).bind fun table => Fields.find? table key

/-- The field holds a table if it is there. -/
def TableAt (record : Fields Json) (field : String) : Prop :=
  ∀ v, Fields.find? record field = some v → ∃ table, v = .obj table

theorem cell?_of_none {record : Fields Json} {field : String}
    (h : Fields.find? record field = none) (key : String) : cell? field key record = none := by
  rw [cell?, h]
  rfl

theorem cell?_of_table {record table : Fields Json} {field : String}
    (h : Fields.find? record field = some (.obj table)) (key : String) :
    cell? field key record = Fields.find? table key := by
  rw [cell?, h]
  rfl

namespace Layout

variable {l : Layout}

/-! ### One merge -/

/-- A field that is not the ancestor's alone is there when either record has it. -/
theorem contains_mergeOnto {ancestor child : Fields Json} {field : String} (hn : field ≠ l.name)
    (he : field ≠ l.extend) (hc : Fields.Nodup child) :
    Fields.contains (l.mergeOnto ancestor child) field
      = (Fields.contains ancestor field || Fields.contains child field) := by
  by_cases hcon : field = l.content
  · subst hcon
    rw [Fields.contains, find?_mergeOnto_content]
    split
    · next h => exact h.symm
    · next h => exact (Bool.not_eq_true _ ▸ h).symm
  · have hr : ¬ l.Reserved field := by
      rintro (h | h | h)
      · exact hn h
      · exact he h
      · exact hcon h
    rw [Fields.contains, find?_mergeOnto hr hc]
    simp only [Fields.contains]
    cases Fields.find? child field <;> simp

/-- The merged content has the ancestor's items before the child's. -/
theorem contentItems_mergeOnto (ancestor child : Fields Json) :
    contentItems (Fields.find? (l.mergeOnto ancestor child) l.content)
      = contentItems (Fields.find? ancestor l.content)
        ++ contentItems (Fields.find? child l.content) := by
  rw [find?_mergeOnto_content]
  split
  · rfl
  · next h =>
    rw [(contents_eq_none h).1, (contents_eq_none h).2]
    rfl

/-- Tables under a keyed field are merged to a table, in which the child's entries count. -/
theorem tableAt_mergeOnto {ancestor child : Fields Json} {field : String} (hl : l.Regular)
    (hk : field ∈ l.keyed) (hc : Json.WellFormed (.obj child)) (ha : TableAt ancestor field)
    (ht : TableAt child field) :
    TableAt (l.mergeOnto ancestor child) field
      ∧ ∀ key, cell? field key (l.mergeOnto ancestor child)
        = (cell? field key child).or (cell? field key ancestor) := by
  have hm : Fields.find? (l.mergeOnto ancestor child) field = _ :=
    find?_mergeOnto (hl.not_reserved_of_keyed hk) hc.nodup
  cases hown : Fields.find? child field with
  | none =>
      rw [hown, Option.map_none, Option.none_or] at hm
      refine ⟨fun v hv => ha v (hm ▸ hv), fun key => ?_⟩
      rw [cell?_of_none hown, Option.none_or, cell?, cell?, hm]
  | some own =>
      obtain ⟨own, rfl⟩ := ht own hown
      rw [hown, Option.map_some, Option.some_or] at hm
      cases hbase : Fields.find? ancestor field with
      | none =>
          rw [hbase, combined_none] at hm
          refine ⟨fun v hv => ⟨own, (Option.some.inj (hm ▸ hv)).symm⟩, fun key => ?_⟩
          rw [cell?_of_table hm, cell?_of_table hown, cell?_of_none hbase, Option.or_none]
      | some base =>
          obtain ⟨base, rfl⟩ := ha base hbase
          rw [hbase, combined_of_tables hk] at hm
          refine ⟨fun v hv => ⟨_, (Option.some.inj (hm ▸ hv)).symm⟩, fun key => ?_⟩
          rw [cell?_of_table hm, cell?_of_table hown, cell?_of_table hbase]
          exact Fields.find?_update_of_nodup base (hc.find? hown).nodup key

/-! ### Merges in a row -/

/-- The children merged onto the root one after the other. -/
def mergeAll (l : Layout) (root : Fields Json) (children : List (Fields Json)) : Fields Json :=
  children.foldl l.mergeOnto root

theorem mergeAll_concat (l : Layout) (root : Fields Json) (children : List (Fields Json))
    (child : Fields Json) :
    l.mergeAll root (children ++ [child]) = l.mergeOnto (l.mergeAll root children) child :=
  List.foldl_append ..

theorem wellFormed_mergeAll {root : Fields Json} {children : List (Fields Json)}
    (hr : Json.WellFormed (.obj root)) (hc : ∀ r ∈ children, Json.WellFormed (.obj r)) :
    Json.WellFormed (.obj (l.mergeAll root children)) := by
  induction children generalizing root with
  | nil => exact hr
  | cons child rest ih =>
      have hchild := hc child (List.mem_cons_self ..)
      exact ih (wellFormed_mergeOnto hr hchild) fun r hr => hc r (List.mem_cons_of_mem _ hr)

/-- What is under each field of a result that children were merged to, from the root on. -/
structure Gathered (l : Layout) (root : Fields Json) (children : List (Fields Json))
    (result : Fields Json) : Prop where
  name : Fields.find? result l.name = Fields.find? root l.name
  extend : Fields.find? result l.extend = Fields.find? root l.extend
  /-- Any other field is there when some record has it. -/
  present : ∀ field, field ≠ l.name → field ≠ l.extend →
    Fields.contains result field = (root :: children).any fun r => Fields.contains r field
  content : contentItems (Fields.find? result l.content)
    = (root :: children).flatMap fun r => contentItems (Fields.find? r l.content)
  /-- The nearest record counts for each key of a keyed field. -/
  keyed : ∀ field ∈ l.keyed, (∀ r ∈ root :: children, TableAt r field) →
    TableAt result field
      ∧ ∀ key, cell? field key result = nearest? (cell? field key) (root :: children)
  /-- The nearest record counts for a field without a role. -/
  other : ∀ field, ¬ l.Reserved field → field ∉ l.keyed →
    Fields.find? result field = nearest? (fun r => Fields.find? r field) (root :: children)

theorem gathered_root (l : Layout) (root : Fields Json) : l.Gathered root [] root where
  name := rfl
  extend := rfl
  present field _ _ := (Bool.or_false _).symm
  content := (List.append_nil _).symm
  keyed field _ ht := by
    exact ⟨ht root (List.mem_singleton.mpr rfl), fun key => (nearest?_singleton _ root).symm⟩
  other field _ _ := (nearest?_singleton (fun r => Fields.find? r field) root).symm

/-- One more merge gathers one more record. -/
theorem Gathered.mergeOnto {root result child : Fields Json} {children : List (Fields Json)}
    (h : l.Gathered root children result) (hl : l.Regular) (hc : Json.WellFormed (.obj child)) :
    l.Gathered root (children ++ [child]) (l.mergeOnto result child) where
  name := (find?_mergeOnto_name hl).trans h.name
  extend := (find?_mergeOnto_extend hl).trans h.extend
  present field hn he := by
    rw [contains_mergeOnto hn he hc.nodup, h.present field hn he, ← List.cons_append,
      List.any_append]
    exact congrArg _ (Bool.or_false _).symm
  content := by
    rw [contentItems_mergeOnto, h.content, ← List.cons_append, List.flatMap_append,
      List.flatMap_singleton]
  keyed field hk ht := by
    rw [← List.cons_append] at ht ⊢
    obtain ⟨htable, hcell⟩ := h.keyed field hk fun r hr => ht r (List.mem_append_left _ hr)
    have hchild := ht child (List.mem_append_right _ (List.mem_singleton.mpr rfl))
    obtain ⟨hmerged, hmerge⟩ := tableAt_mergeOnto hl hk hc htable hchild
    refine ⟨hmerged, fun key => ?_⟩
    rw [hmerge, nearest?_concat, hcell]
  other field hr hk := by
    have hkeyed : l.isKeyed field = false := by
      rw [isKeyed, List.contains_eq_mem]
      exact decide_eq_false hk
    rw [← List.cons_append, nearest?_concat, ← h.other field hr hk, find?_mergeOnto hr hc.nodup]
    cases Fields.find? child field with
    | none => rfl
    | some own => simp [combined, hkeyed]

/-- Merging in a row gathers all records. -/
theorem gathered_mergeAll (hl : l.Regular) (root : Fields Json) {children : List (Fields Json)}
    (hc : ∀ r ∈ children, Json.WellFormed (.obj r)) :
    l.Gathered root children (l.mergeAll root children) := by
  -- the records gathered so far and their result vary along the row
  suffices row : ∀ (children before : List (Fields Json)) (result : Fields Json),
      (∀ r ∈ children, Json.WellFormed (.obj r)) → l.Gathered root before result →
      l.Gathered root (before ++ children) (l.mergeAll result children) from
    row children [] root hc (gathered_root l root)
  intro children
  induction children with
  | nil =>
      intro before result _ h
      exact (List.append_nil before).symm ▸ h
  | cons child rest ih =>
      intro before result hc h
      have hnext := h.mergeOnto hl (hc child (List.mem_cons_self ..))
      have := ih _ _ (fun r hr => hc r (List.mem_cons_of_mem _ hr)) hnext
      rwa [List.append_assoc] at this

/-- Once anything is merged, the content is an array of all items, if some record has content. -/
theorem find?_mergeAll_content (hl : l.Regular) (root : Fields Json)
    {children : List (Fields Json)} (hc : ∀ r ∈ children, Json.WellFormed (.obj r))
    (hne : children ≠ []) :
    Fields.find? (l.mergeAll root children) l.content
      = if (root :: children).any fun r => Fields.contains r l.content then
          some (.arr ((root :: children).flatMap fun r => contentItems (Fields.find? r l.content)))
        else none := by
  have h := gathered_mergeAll hl root hc
  have hp := h.present l.content (Ne.symm hl.2.1) (Ne.symm hl.2.2.1)
  rw [← hp, ← h.content]
  -- the last merge has written the content anew
  obtain ⟨before, child, rfl⟩ := List.eq_nil_or_concat children |>.resolve_left hne
  rw [List.concat_eq_append, mergeAll_concat, Fields.contains, contentItems_mergeOnto,
    find?_mergeOnto_content]
  split
  · rfl
  · rfl

end Layout

end Dossier
