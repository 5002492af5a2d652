import Dossier.Proofs.Entity.Writing
import Dossier.Proofs.Fields

/-!
# Entity — folding sources

A merge writes its sources one after the other over the default record and looks at the result once.

* `Entity.folded_eq`: so it comes to one write, of all entries of the sources in a row.
* `Entity.lastWins_folded`: of a key the last source counts, while the keys stand where they first
  occurred.
* `Entity.update_folded`: a folded record begins with the keys of the default record and so replaces
  it when it is folded again.  Neither a default nor another order of keys comes back.
* `merge_regroups`: hence what was merged can stand for its sources in a further merge, and a valid
  entity alone is merged into one that is equal to it.
-/

namespace Dossier

namespace Entity

open Fields (keys find?)

variable {registry : Registry} {schema : Schema} {mode : Mode}

/-- The value under a key in the last source that has the key. -/
def lastValue? (sources : List Candidate) (key : String) : Option Json :=
  sources.reverse.findSome? fun c => find? (contribution c) key

theorem lastValue?_cons (c : Candidate) (rest : List Candidate) (key : String) :
    lastValue? (c :: rest) key = (lastValue? rest key).or (find? (contribution c) key) := by
  rw [lastValue?, List.reverse_cons, List.findSome?_append, List.findSome?_singleton]
  rfl

/-- The last of all entries of the sources is one of the last source that has the key. -/
theorem find?_entries {sources : List Candidate}
    (h : ∀ c ∈ sources, Fields.Nodup (contribution c)) (key : String) :
    find? (sources.flatMap contribution).reverse key = lastValue? sources key := by
  induction sources with
  | nil => rfl
  | cons c rest ih =>
      have hc := h c (List.mem_cons_self ..)
      have hr := ih fun d hd => h d (List.mem_cons_of_mem _ hd)
      rw [List.flatMap_cons, List.reverse_append, Fields.find?_append, hr,
        Fields.find?_reverse hc, lastValue?_cons]

/-! ### The folded record -/

/-- A fold over tables is one write of all their entries. -/
theorem foldl_update (t : Fields Json) (sources : List Candidate) :
    sources.foldl (fun t c => Fields.update t (contribution c)) t
      = Fields.update t (sources.flatMap contribution) := by
  induction sources generalizing t with
  | nil => rfl
  | cons c rest ih =>
      rw [List.foldl_cons, ih, List.flatMap_cons, Fields.update, Fields.update, Fields.update,
        List.foldl_append]

theorem folded_eq (registry : Registry) (schema : Schema) (sources : List Candidate) :
    folded registry schema sources
      = Fields.update (schema.defaultFields registry) (sources.flatMap contribution) :=
  foldl_update _ sources

/-- The record that a fold leaves, read from its sources: of each key the last source counts that has
it, and else the default record; and the keys stand where they first occurred. -/
structure LastWins (registry : Registry) (schema : Schema) (sources : List Candidate)
    (record : Fields Json) : Prop where
  find?_eq (key : String) : find? record key
    = (lastValue? sources key).or (find? (schema.defaultFields registry) key)
  keys_eq : keys record = (keys (schema.defaultFields registry)
    ++ sources.flatMap fun c => keys (contribution c)).eraseDups

/-- The keys of the default record come first, and then those of the sources as they first occur. -/
theorem keys_folded (registry : Registry) (hs : schema.propertyNames.Nodup)
    (sources : List Candidate) :
    keys (folded registry schema sources) = (keys (schema.defaultFields registry)
      ++ sources.flatMap fun c => keys (contribution c)).eraseDups := by
  have entries : keys (sources.flatMap contribution)
      = sources.flatMap fun c => keys (contribution c) := List.map_flatMap
  rw [folded_eq, Fields.keys_update (Schema.nodup_defaultFields registry hs), entries]

theorem lastWins_folded (registry : Registry) (hs : schema.propertyNames.Nodup)
    {sources : List Candidate} (h : ∀ c ∈ sources, Fields.Nodup (contribution c)) :
    LastWins registry schema sources (folded registry schema sources) where
  find?_eq key := by rw [folded_eq, Fields.find?_update, find?_entries h]
  keys_eq := keys_folded registry hs sources

/-- A folded record leaves nothing of the default record when it is written over it. -/
theorem update_folded (registry : Registry) (hs : schema.propertyNames.Nodup)
    (sources : List Candidate) :
    Fields.update (schema.defaultFields registry) (folded registry schema sources)
      = folded registry schema sources := by
  refine Fields.update_eq_self (Schema.nodup_defaultFields registry hs)
    (nodup_folded registry hs sources) ?_
  rw [folded_eq]
  exact Fields.keys_prefix_update _ _

/-- A source with a folded record can stand for what was folded. -/
theorem folded_regroup (registry : Registry) (hs : schema.propertyNames.Nodup)
    {xs : List Candidate} {c : Candidate} (hc : contribution c = folded registry schema xs)
    (ys : List Candidate) :
    folded registry schema (c :: ys) = folded registry schema (xs ++ ys) := by
  rw [folded, List.foldl_cons, hc, update_folded registry hs, folded, folded, List.foldl_append]

/-! ### The merge -/

/-- A merge succeeds when the folded record is one of the schema, and then holds it. -/
theorem merge_eq_ok_iff {sources : List Candidate} {m : Entity} :
    merge registry schema sources mode = .ok m ↔
      schema.accepts registry mode (.obj (folded registry schema sources)) = true
        ∧ m = ⟨schema, folded registry schema sources, mode⟩ := by
  obtain ⟨s, record, other⟩ := m
  rw [merge, ofDto_eq_ok_iff]
  simp [dto, and_comm]

/-- What was merged can stand for its sources in a further merge. -/
theorem merge_regroup (hs : schema.propertyNames.Nodup) {xs : List Candidate} {m : Entity}
    (hm : merge registry schema xs mode = .ok m) (ys : List Candidate) :
    merge registry schema (.entity m :: ys) mode = merge registry schema (xs ++ ys) mode := by
  obtain ⟨-, rfl⟩ := merge_eq_ok_iff.mp hm
  rw [merge, merge, folded_regroup registry hs rfl]

/-- A valid entity alone is merged into an equal one; the order of its keys may change. -/
theorem exists_merge_self {e : Entity} (hs : e.schema.propertyNames.Nodup) (he : e.Valid registry)
    (hw : e.dto.WellFormed) :
    ∃ f, merge registry e.schema [.entity e] e.mode = .ok f ∧ f.equal e = true := by
  have reads (name : String) :
      find? (folded registry e.schema [.entity e]) name = find? e.record name := by
    rw [folded, List.foldl_cons, List.foldl_nil, contribution,
      Fields.find?_update_of_nodup _ hw.nodup, find?_or_default he]
  have accepted : e.schema.accepts registry e.mode (.obj (folded registry e.schema [.entity e]))
      = true := (Schema.accepts_congr reads).trans he
  obtain ⟨f, hf⟩ := exists_ofDto_iff.mpr accepted
  have merged := readsAs_of_ofDto (nodup_folded registry hs _) reads hf
  exact ⟨f, hf, merged.equal ⟨rfl, hw.nodup, fun _ => rfl⟩ hw⟩

end Entity

/-- **A merge is a fold in which the last value counts, and can be regrouped.**  For a declared
schema, it succeeds exactly when the folded record is one of the schema, and then holds that record.
An entity that was merged can stand for its sources: with any others after it, it leads to the same
failure or to the same entity, with the same order of keys.  And a valid entity alone is merged into
an entity that is equal to it. -/
theorem merge_regroups {serial : Nat} {name : String} {properties : List Property}
    {schema : Schema} (hs : Schema.declare serial name properties = .ok schema)
    (registry : Registry) (mode : Mode) :
    (∀ sources : List Candidate, (∀ c ∈ sources, Fields.Nodup (Entity.contribution c)) →
      ∃ record, Entity.LastWins registry schema sources record ∧
        ∀ m, Entity.merge registry schema sources mode = .ok m ↔
          schema.accepts registry mode (.obj record) = true ∧ m = ⟨schema, record, mode⟩)
    ∧ (∀ (xs ys : List Candidate) (m : Entity), Entity.merge registry schema xs mode = .ok m →
      Entity.merge registry schema (.entity m :: ys) mode
        = Entity.merge registry schema (xs ++ ys) mode)
    ∧ ∀ e : Entity, e.schema = schema → e.mode = mode → e.Valid registry → e.dto.WellFormed →
      ∃ f, Entity.merge registry schema [.entity e] mode = .ok f ∧ f.equal e = true := by
  have names := Schema.nodup_of_declare hs
  refine ⟨fun sources h => ?_, fun xs ys m hm => Entity.merge_regroup names hm ys, ?_⟩
  · exact ⟨Entity.folded registry schema sources,
      Entity.lastWins_folded registry names h, fun m => Entity.merge_eq_ok_iff⟩
  · rintro e rfl rfl he hw
    exact Entity.exists_merge_self names he hw

/-- Nothing, an object, a value that contributes nothing, and the tree, which is in another mode. -/
def Candidate.ofTree : List Candidate :=
  [.absent, .json (.obj [("note", .str "n"), ("mark", .zero)]), .json .null, .entity Entity.tree]

/-- The sources merged: the keys of the default record first, then those of the object. -/
def Entity.annotated : Entity :=
  ⟨Schema.tree, [("label", .str "a"), ("child", .obj [("label", .str "b"), ("child", .null)]),
    ("note", .str "n"), ("mark", .zero)], .production⟩

/-- With a label after it the merged tree stands for its sources, both when that is a text and when
it is not; and the tree with a mark in front is merged into an equal one. -/
theorem merge_regroups_tree :
    let registry := (Registry.empty.register Schema.tree).2
    let merge (sources : List Candidate) := Entity.merge registry Schema.tree sources .production
    let label (value : Json) : Candidate := .json (.obj [("label", value)])
    Schema.declare 0 "Tree" Schema.tree.properties = .ok Schema.tree
      ∧ (∀ c ∈ Candidate.ofTree, Fields.Nodup (Entity.contribution c))
      ∧ merge Candidate.ofTree = .ok Entity.annotated
      ∧ Entity.LastWins registry Schema.tree Candidate.ofTree Entity.annotated.record
      ∧ (∃ f, merge [.entity Entity.annotated, label (.str "b")] = .ok f
        ∧ merge (Candidate.ofTree ++ [label (.str "b")]) = .ok f)
      ∧ (∃ error, merge [.entity Entity.annotated, label .zero] = .error error
        ∧ merge (Candidate.ofTree ++ [label .zero]) = .error error)
      ∧ Entity.marked.Valid registry ∧ Entity.marked.dto.WellFormed
      ∧ ∃ f, merge [.entity Entity.marked] = .ok f ∧ f.equal Entity.marked = true := by
  intro registry merge label
  have hs : Schema.declare 0 "Tree" Schema.tree.properties = .ok Schema.tree := rfl
  have hn : ∀ c ∈ Candidate.ofTree, Fields.Nodup (Entity.contribution c) := by
    simp [Candidate.ofTree, Entity.contribution, Entity.tree, Fields.Nodup, Fields.keys]
  have hm : merge Candidate.ofTree = .ok Entity.annotated := rfl
  have he : Entity.marked.Valid registry := by unfold Entity.Valid; decide
  have hw : Entity.marked.dto.WellFormed := by
    simp [Entity.marked, Entity.tree, Entity.dto, Json.WellFormed, Json.WellFormedFields,
      Fields.Nodup, Fields.keys]
  obtain ⟨fold, regroup, self⟩ := merge_regroups hs registry .production
  obtain ⟨record, last, merged⟩ := fold Candidate.ofTree hn
  obtain ⟨-, heq⟩ := (merged _).mp hm
  obtain rfl : record = Entity.annotated.record := congrArg Entity.record heq.symm
  have regrouped (value : Json) := regroup Candidate.ofTree [label value] Entity.annotated hm
  exact ⟨hs, hn, hm, last, ⟨_, rfl, (regrouped (.str "b")).symm⟩, ⟨_, rfl, (regrouped .zero).symm⟩,
    he, hw, self _ rfl rfl he hw⟩

end Dossier
