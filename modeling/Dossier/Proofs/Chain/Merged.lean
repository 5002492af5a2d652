import Dossier.Proofs.Chain.Merge
import Dossier.Proofs.Fields

/-!
# Chain — the one record that a merge leaves

* `Layout.Merges`: how a merged record stands to its ancestor and its child, by its keys in order and
  by what is under each.
* `Layout.keys_mergeOnto`: the ancestor's keys, the child's new ones, and the content if it is new.
* `Layout.Merges.unique`: an ancestor and a child have one such record.
* `Layout.mergeOnto_eq_iff`: it is what merging gives.
-/

namespace Dossier

namespace Layout

variable {l : Layout} {ancestor child merged : Fields Json} {field : String}

/-- The field is keyed and holds a table on both sides. -/
def Meets (l : Layout) (ancestor child : Fields Json) (field : String) (base own : Fields Json) :
    Prop :=
  field ∈ l.keyed ∧ Fields.find? ancestor field = some (.obj base)
    ∧ Fields.find? child field = some (.obj own)

/-- The child's keys that the ancestor lacks, in the child's order; those with a role of their own are
left out. -/
def added (l : Layout) (ancestor child : Fields Json) : List String :=
  (Fields.keys child).filter fun key => ¬ l.Reserved key ∧ key ∉ Fields.keys ancestor

/-- The record is the ancestor with the child merged onto it. -/
structure Merges (l : Layout) (ancestor child merged : Fields Json) : Prop where
  /-- The ancestor's keys, the child's new ones in its order, and the content if only the child has
  it. -/
  keys : Fields.keys merged = Fields.keys ancestor ++ l.added ancestor child
    ++ if l.content ∈ Fields.keys child ∧ l.content ∉ Fields.keys ancestor then [l.content] else []
  /-- The ancestor's name and reference. -/
  identity (field : String) : field = l.name ∨ field = l.extend →
    Fields.find? merged field = Fields.find? ancestor field
  /-- The ancestor's items and then the child's. -/
  content : Fields.find? merged l.content =
    if l.content ∈ Fields.keys ancestor ∨ l.content ∈ Fields.keys child then
      some (.arr (contentItems (Fields.find? ancestor l.content)
        ++ contentItems (Fields.find? child l.content)))
    else none
  /-- The child's table written over the ancestor's. -/
  tables (field : String) (base own : Fields Json) : l.Meets ancestor child field base own →
    ∃ table, Fields.find? merged field = some (.obj table) ∧ Fields.Overlays base own table
  /-- Any other value of the child. -/
  replaced (field : String) (value : Json) : ¬ l.Reserved field →
    Fields.find? child field = some value → (¬ ∃ base own, l.Meets ancestor child field base own) →
    Fields.find? merged field = some value
  /-- What the child does not have. -/
  kept (field : String) : ¬ l.Reserved field → Fields.find? child field = none →
    Fields.find? merged field = Fields.find? ancestor field

/-- A child's value stands for itself, unless it is a table that meets one. -/
theorem combined_of_not_meets {own : Json} (ho : Fields.find? child field = some own)
    (h : ¬ ∃ base own, l.Meets ancestor child field base own) :
    l.combined field (Fields.find? ancestor field) own = own := by
  unfold combined
  split
  · next hk =>
    split
    · next hb => exact absurd ⟨_, _, List.contains_iff_mem.mp hk, hb, ho⟩ h
    · rfl
  · rfl

/-! ### The keys of a merged record -/

theorem keys_mergeField (merged : Fields Json) (field : String) (value : Json) :
    Fields.keys (l.mergeField merged field value)
      = if ¬ l.Reserved field ∧ field ∉ Fields.keys merged then Fields.keys merged ++ [field]
        else Fields.keys merged := by
  by_cases hr : l.Reserved field
  · rw [mergeField_of_reserved hr, if_neg fun h => h.1 hr]
  · rw [mergeField_of_not_reserved hr, Fields.keys_insert]
    by_cases hm : field ∈ Fields.keys merged <;> simp [hr, hm]

/-- The ancestor's keys, the child's new ones, and the content if it is new. -/
theorem keys_mergeOnto (hc : Fields.Nodup child) :
    Fields.keys (l.mergeOnto ancestor child) = Fields.keys ancestor ++ l.added ancestor child
      ++ if l.content ∈ Fields.keys child ∧ l.content ∉ Fields.keys ancestor then [l.content]
        else [] := by
  have fields : Fields.keys (child.foldl (fun merged e => l.mergeField merged e.1 e.2) ancestor)
      = Fields.keys ancestor ++ l.added ancestor child :=
    Fields.keys_foldl (fun merged e => keys_mergeField merged e.1 e.2) hc ancestor
  have content_mem : l.content ∈ Fields.keys ancestor ++ l.added ancestor child
      ↔ l.content ∈ Fields.keys ancestor := by
    simp [added, Reserved]
  -- the content is written last, so that it goes to the end where the ancestor has none
  simp only [mergeOnto, Fields.isSome_find?, Bool.or_eq_true, decide_eq_true_eq]
  by_cases ha : l.content ∈ Fields.keys ancestor
  · rw [if_pos (.inl ha), if_neg fun h => h.2 ha, List.append_nil, Fields.keys_insert, fields,
      if_pos (content_mem.mpr ha)]
  · by_cases ho : l.content ∈ Fields.keys child
    · rw [if_pos (.inr ho), if_pos ⟨ho, ha⟩, Fields.keys_insert, fields,
        if_neg (mt content_mem.mp ha)]
    · rw [if_neg (not_or.mpr ⟨ha, ho⟩), if_neg fun h => ho h.1, List.append_nil, fields]

/-! ### The merged record -/

theorem merges_mergeOnto (hl : l.Regular) (hc : Json.WellFormed (.obj child)) :
    l.Merges ancestor child (l.mergeOnto ancestor child) where
  keys := keys_mergeOnto hc.nodup
  identity field := by
    rintro (rfl | rfl)
    · exact find?_mergeOnto_name hl
    · exact find?_mergeOnto_extend hl
  content := by
    rw [find?_mergeOnto_content]
    simp only [Fields.isSome_find?, Bool.or_eq_true, decide_eq_true_eq]
  tables field base own := by
    rintro ⟨hk, hb, ho⟩
    refine ⟨Fields.update base own, ?_, Fields.overlays_update (hc.find? ho).nodup⟩
    rw [find?_mergeOnto (hl.not_reserved_of_keyed hk) hc.nodup, ho, hb, Option.map_some,
      Option.some_or, combined_of_tables hk]
  replaced field value hr ho hm := by
    rw [find?_mergeOnto hr hc.nodup, ho, Option.map_some, Option.some_or,
      combined_of_not_meets ho hm]
  kept field hr ho := by
    rw [find?_mergeOnto hr hc.nodup, ho, Option.map_none, Option.none_or]

/-- There is one such record. -/
theorem Merges.unique {other : Fields Json} (h : l.Merges ancestor child merged)
    (h' : l.Merges ancestor child other) (ha : Json.WellFormed (.obj ancestor))
    (hc : Json.WellFormed (.obj child)) (hm : Fields.Nodup merged) : merged = other := by
  refine Fields.eq_of_find? hm (h.keys.trans h'.keys.symm) fun field => ?_
  by_cases hi : field = l.name ∨ field = l.extend
  · exact (h.identity field hi).trans (h'.identity field hi).symm
  by_cases hcon : field = l.content
  · subst hcon
    exact h.content.trans h'.content.symm
  have hr : ¬ l.Reserved field := fun hr => hr.elim (hi ∘ .inl) (·.elim (hi ∘ .inr) hcon)
  cases ho : Fields.find? child field with
  | none => exact (h.kept field hr ho).trans (h'.kept field hr ho).symm
  | some value =>
      by_cases hmeets : ∃ base own, l.Meets ancestor child field base own
      · obtain ⟨base, own, hb⟩ := hmeets
        have only {table : Fields Json} : Fields.Overlays base own table ↔ _ :=
          Fields.overlays_iff (ha.find? hb.2.1).nodup (hc.find? hb.2.2).nodup
        obtain ⟨table, found, overlays⟩ := h.tables field base own hb
        obtain ⟨table', found', overlays'⟩ := h'.tables field base own hb
        rw [found, found', ← only.mp overlays, ← only.mp overlays']
      · exact (h.replaced field value hr ho hmeets).trans (h'.replaced field value hr ho hmeets).symm

/-- Merging a child onto its ancestor gives one record, which has the ancestor's keys in their order,
then the child's new ones in theirs, and then the content if only the child has it.  Name and
reference are the ancestor's; the content is the ancestor's items and then the child's; where a keyed
field holds a table on both sides, the child's is written over the ancestor's; any other field is the
child's, or the ancestor's where the child does not have it. -/
theorem mergeOnto_eq_iff (hl : l.Regular) (ha : Json.WellFormed (.obj ancestor))
    (hc : Json.WellFormed (.obj child)) :
    l.mergeOnto ancestor child = merged ↔ l.Merges ancestor child merged := by
  have merges : l.Merges ancestor child (l.mergeOnto ancestor child) := merges_mergeOnto hl hc
  refine ⟨fun h => h ▸ merges, fun h => merges.unique h ha hc ?_⟩
  exact (wellFormed_mergeOnto ha hc).nodup

/-- A base with content and two tables, and a child that has more content, a title and a width of its
own. -/
theorem mergeOnto_eq_iff_titled :
    standard.Merges
      [("name", .str "Base"), ("content", .arr [.str "a"]),
        ("meta", .obj [("title", .str "base"), ("lang", .str "en")]),
        ("style", .obj [("color", .str "red")]), ("width", .str "wide")]
      [("name", .str "Child"), ("extend", .str "Base"), ("note", .null),
        ("content", .arr [.str "b", .str "c"]),
        ("meta", .obj [("title", .str "child"), ("kind", .str "leaf")]),
        ("width", .str "narrow")]
      [("name", .str "Base"), ("content", .arr [.str "a", .str "b", .str "c"]),
        ("meta", .obj [("title", .str "child"), ("lang", .str "en"), ("kind", .str "leaf")]),
        ("style", .obj [("color", .str "red")]), ("width", .str "narrow"), ("note", .null)] := by
  refine (mergeOnto_eq_iff standard_regular ?_ ?_).mp rfl <;>
    simp [Json.WellFormed, Json.WellFormedFields, Json.WellFormedItems, Fields.Nodup, Fields.keys]

end Layout

end Dossier
