import Dossier.Chain.Merge
import Dossier.Proofs.Json.WellFormed

/-!
# Chain — what a merge leaves under each field

* `Layout.find?_mergeOnto_content`: the content of a merged record is the ancestor's items followed
  by the child's, when either has content.
* `Layout.find?_mergeOnto`: any other field but name and reference has the child's value, combined
  with the ancestor's where the field is keyed.
* `Layout.find?_mergeOnto_name`, `Layout.find?_mergeOnto_extend`: name and reference are the
  ancestor's.
* `Layout.find?_terminal`: a record reduced to a built-in has the built-in's name and its own
  content and keyed fields, and nothing else.

The layouts are regular: a name, a reference or a content that were the same field, or a keyed one,
would be written twice over.
-/

namespace Dossier

namespace Layout

variable {l : Layout} {ancestor child : Fields Json} {field : String}

/-- A field that a merge does not take from the child like others. -/
def Reserved (l : Layout) (field : String) : Prop :=
  field = l.name ∨ field = l.extend ∨ field = l.content

instance (l : Layout) (field : String) : Decidable (l.Reserved field) :=
  inferInstanceAs (Decidable (_ ∨ _))

/-- A child's value combined with the one inherited under the field. -/
def combined (l : Layout) (field : String) (inherited : Option Json) (own : Json) : Json :=
  if l.isKeyed field then
    match inherited, own with
    | some (.obj base), .obj table => .obj (Fields.update base table)
    | _, _ => own
  else own

theorem combined_none (field : String) (own : Json) : l.combined field none own = own := by
  cases h : l.isKeyed field <;> simp [combined, h]

theorem combined_of_tables (h : field ∈ l.keyed) (base own : Fields Json) :
    l.combined field (some (.obj base)) (.obj own) = .obj (Fields.update base own) := by
  exact if_pos (List.contains_iff_mem.mpr h)

theorem mergeField_of_reserved (h : l.Reserved field) (merged : Fields Json) (value : Json) :
    l.mergeField merged field value = merged :=
  if_pos h

theorem mergeField_of_not_reserved (h : ¬ l.Reserved field) (merged : Fields Json) (value : Json) :
    l.mergeField merged field value
      = Fields.insert merged field (l.combined field (Fields.find? merged field) value) := by
  unfold mergeField combined
  rw [if_neg (show ¬ (_ ∨ _ ∨ _) from h)]
  cases l.isKeyed field with
  | false => rfl
  | true =>
      cases Fields.find? merged field with
      | none => rfl
      | some inherited => cases inherited <;> cases value <;> rfl

theorem find?_mergeField_of_ne {merged : Fields Json} {other : String} (h : other ≠ field)
    (value : Json) :
    Fields.find? (l.mergeField merged other value) field = Fields.find? merged field := by
  by_cases hr : l.Reserved other
  · rw [mergeField_of_reserved hr]
  · rw [mergeField_of_not_reserved hr, Fields.find?_insert_of_ne _ _ h]

/-- Reserved fields are left as they are while the child's fields are written. -/
theorem find?_mergeFields_of_reserved (h : l.Reserved field) (child merged : Fields Json) :
    Fields.find? (child.foldl (fun merged e => l.mergeField merged e.1 e.2) merged) field
      = Fields.find? merged field := by
  induction child generalizing merged with
  | nil => rfl
  | cons e rest ih =>
      rw [List.foldl_cons, ih]
      by_cases he : e.1 = field
      · rw [he, mergeField_of_reserved h]
      · exact find?_mergeField_of_ne he e.2

/-- Any other field has the child's value, combined with the one it is written over. -/
theorem find?_mergeFields (h : ¬ l.Reserved field) (hc : Fields.Nodup child)
    (merged : Fields Json) :
    Fields.find? (child.foldl (fun merged e => l.mergeField merged e.1 e.2) merged) field
      = ((Fields.find? child field).map (l.combined field (Fields.find? merged field))).or
        (Fields.find? merged field) := by
  induction child generalizing merged with
  | nil => rfl
  | cons e rest ih =>
      obtain ⟨k, v⟩ := e
      obtain ⟨hk, hr⟩ := Fields.nodup_cons.mp hc
      rw [List.foldl_cons, ih hr]
      by_cases he : k = field
      -- the first entry of the name is the only one
      · subst he
        rw [mergeField_of_not_reserved h, Fields.find?_insert_self, hk]
        simp [Fields.find?]
      · rw [find?_mergeField_of_ne he]
        simp [Fields.find?, he]

/-! ### A merged record -/

theorem Regular.not_reserved_of_keyed (hl : l.Regular) (h : field ∈ l.keyed) :
    ¬ l.Reserved field := by
  obtain ⟨-, -, -, hn, he, hc⟩ := hl
  rintro (rfl | rfl | rfl)
  · exact hn h
  · exact he h
  · exact hc h

theorem find?_mergeOnto_of_ne (h : field ≠ l.content) :
    Fields.find? (l.mergeOnto ancestor child) field
      = Fields.find? (child.foldl (fun merged e => l.mergeField merged e.1 e.2) ancestor)
          field := by
  simp only [mergeOnto]
  split
  · exact Fields.find?_insert_of_ne _ _ (Ne.symm h)
  · rfl

theorem find?_mergeOnto_name (hl : l.Regular) :
    Fields.find? (l.mergeOnto ancestor child) l.name = Fields.find? ancestor l.name := by
  rw [find?_mergeOnto_of_ne hl.2.1]
  exact find?_mergeFields_of_reserved (.inl rfl) child ancestor

theorem find?_mergeOnto_extend (hl : l.Regular) :
    Fields.find? (l.mergeOnto ancestor child) l.extend = Fields.find? ancestor l.extend := by
  rw [find?_mergeOnto_of_ne hl.2.2.1]
  exact find?_mergeFields_of_reserved (.inr (.inl rfl)) child ancestor

/-- A merged record refers to what its ancestor refers to. -/
theorem extendOf?_mergeOnto (hl : l.Regular) :
    l.extendOf? (l.mergeOnto ancestor child) = l.extendOf? ancestor := by
  rw [extendOf?, extendOf?, find?_mergeOnto_extend hl]

theorem contents_eq_none {inherited own : Option Json}
    (h : ¬ (inherited.isSome || own.isSome) = true) : inherited = none ∧ own = none := by
  cases inherited <;> cases own <;> simp_all

/-- The ancestor's items come first, then the child's; there is no content where neither has any. -/
theorem find?_mergeOnto_content :
    Fields.find? (l.mergeOnto ancestor child) l.content
      = if (Fields.find? ancestor l.content).isSome || (Fields.find? child l.content).isSome then
          some (.arr (contentItems (Fields.find? ancestor l.content)
            ++ contentItems (Fields.find? child l.content)))
        else none := by
  simp only [mergeOnto]
  split
  · rw [Fields.find?_insert_self]
  · next h =>
    rw [find?_mergeFields_of_reserved (.inr (.inr rfl))]
    exact (contents_eq_none h).1

/-- Any other field has the child's value, combined with the ancestor's. -/
theorem find?_mergeOnto (h : ¬ l.Reserved field) (hc : Fields.Nodup child) :
    Fields.find? (l.mergeOnto ancestor child) field
      = ((Fields.find? child field).map (l.combined field (Fields.find? ancestor field))).or
        (Fields.find? ancestor field) := by
  rw [find?_mergeOnto_of_ne fun e => h (.inr (.inr e))]
  exact find?_mergeFields h hc ancestor

/-! ### A record reduced to a built-in -/

theorem find?_copyField (source target : Fields Json) (name : String) :
    Fields.find? (copyField source target name) field
      = if name = field then (Fields.find? source field).or (Fields.find? target field)
        else Fields.find? target field := by
  rw [copyField]
  by_cases hn : name = field
  · subst hn
    cases hs : Fields.find? source name with
    | none => simp
    | some v => simp [Fields.find?_insert_self]
  · rw [if_neg hn]
    cases Fields.find? source name with
    | none => rfl
    | some v => exact Fields.find?_insert_of_ne target v hn

theorem find?_copyFields (source : Fields Json) (names : List String) (target : Fields Json) :
    Fields.find? (names.foldl (copyField source) target) field
      = if field ∈ names then (Fields.find? source field).or (Fields.find? target field)
        else Fields.find? target field := by
  induction names generalizing target with
  | nil => simp
  | cons name rest ih =>
      rw [List.foldl_cons, ih, find?_copyField]
      by_cases hn : name = field
      · subst hn
        cases Fields.find? source name <;> simp
      · simp [hn, Ne.symm hn]

/-- The built-in's name, the record's own content and keyed fields, and nothing else. -/
theorem find?_terminal (hl : l.Regular) (builtIn : String) (field : String) :
    Fields.find? (l.terminal builtIn child) field
      = if field = l.name then some (.str builtIn)
        else if field = l.content ∨ field ∈ l.keyed then Fields.find? child field else none := by
  rw [terminal, find?_copyFields]
  simp only [List.mem_cons]
  by_cases hn : field = l.name
  · subst hn
    rw [if_neg (not_or.mpr ⟨hl.2.1, hl.2.2.2.1⟩), if_pos rfl]
    simp [Fields.find?]
  · simp [Fields.find?, hn, Ne.symm hn]

/-- A record reduced to a built-in refers to nothing. -/
theorem extendOf?_terminal (hl : l.Regular) (builtIn : String) (child : Fields Json) :
    l.extendOf? (l.terminal builtIn child) = none := by
  have ⟨hne, _, hec, _, hek, _⟩ := hl
  rw [extendOf?, find?_terminal hl, if_neg (Ne.symm hne), if_neg (not_or.mpr ⟨hec, hek⟩)]
  rfl

/-! ### Well-formed records -/

theorem wellFormed_contentItems {content : Option Json} (h : ∀ v ∈ content, Json.WellFormed v) :
    ∀ item ∈ contentItems content, Json.WellFormed item := by
  intro item hi
  cases content with
  | none => cases hi
  | some v =>
      have hv := h v rfl
      cases v with
      | null => cases hi
      | arr items => exact Json.wellFormed_arr_iff.mp hv item hi
      | _ =>
          obtain rfl := List.mem_singleton.mp hi
          exact hv

theorem wellFormed_combined {inherited : Option Json} {own : Json}
    (hi : ∀ v ∈ inherited, Json.WellFormed v) (ho : Json.WellFormed own) :
    Json.WellFormed (l.combined field inherited own) := by
  unfold combined
  split
  · split
    · exact (hi _ rfl).update ho
    · exact ho
  · exact ho

theorem wellFormed_mergeFields {merged : Fields Json} (hm : Json.WellFormed (.obj merged))
    (hc : ∀ e ∈ child, Json.WellFormed e.2) :
    Json.WellFormed (.obj (child.foldl (fun merged e => l.mergeField merged e.1 e.2) merged)) := by
  induction child generalizing merged with
  | nil => exact hm
  | cons e rest ih =>
      refine ih ?_ fun d hd => hc d (List.mem_cons_of_mem _ hd)
      show Json.WellFormed (.obj (l.mergeField merged e.1 e.2))
      by_cases hr : l.Reserved e.1
      · rw [mergeField_of_reserved hr]
        exact hm
      · rw [mergeField_of_not_reserved hr]
        have hv := hc e (List.mem_cons_self ..)
        exact hm.insert _ (wellFormed_combined (fun v hv => hm.find? hv) hv)

/-- A merged record names no key twice if neither of its two parts does. -/
theorem wellFormed_mergeOnto (ha : Json.WellFormed (.obj ancestor))
    (hc : Json.WellFormed (.obj child)) : Json.WellFormed (.obj (l.mergeOnto ancestor child)) := by
  have hm := wellFormed_mergeFields (l := l) ha (Json.wellFormed_obj_iff.mp hc).2
  simp only [mergeOnto]
  split
  · refine hm.insert _ (Json.wellFormed_arr_iff.mpr fun item hi => ?_)
    rcases List.mem_append.mp hi with hi | hi
    · exact wellFormed_contentItems (fun v hv => ha.find? hv) item hi
    · exact wellFormed_contentItems (fun v hv => hc.find? hv) item hi
  · exact hm

theorem wellFormed_terminal (builtIn : String) (hc : Json.WellFormed (.obj child)) :
    Json.WellFormed (.obj (l.terminal builtIn child)) := by
  have copied (names : List String) (target : Fields Json) (ht : Json.WellFormed (.obj target)) :
      Json.WellFormed (.obj (names.foldl (copyField child) target)) := by
    induction names generalizing target with
    | nil => exact ht
    | cons name rest ih =>
        refine ih _ ?_
        rw [copyField]
        split
        · next v hv => exact ht.insert name (hc.find? hv)
        · exact ht
  refine copied _ _ (Json.wellFormed_obj_iff.mpr ⟨?_, fun e he => ?_⟩)
  · simp [Fields.Nodup, Fields.keys]
  · obtain rfl := List.mem_singleton.mp he
    simp [Json.WellFormed]

/-! ### A record merged onto its resolved ancestor -/

/-- What a record is merged to refers to nothing. -/
theorem extendOf?_merged (hl : l.Regular) (ancestor record : Fields Json) :
    l.extendOf? (l.merged ancestor record) = none := by
  simp only [merged]
  split
  · exact extendOf?_terminal hl _ _
  · next h => exact h

theorem merged_eq_mergeOnto (hl : l.Regular) (h : l.extendOf? ancestor = none)
    (record : Fields Json) : l.merged ancestor record = l.mergeOnto ancestor record := by
  simp only [merged, extendOf?_mergeOnto hl, h]

end Layout

end Dossier
