import Dossier.Proofs.Entity.Lifetime
import Dossier.Proofs.Json.Equality
import Dossier.Proofs.Schema.Default

/-!
# Entity — the ways to write a property

A property's value can be set; or an entity can be made of the changed record; or the entity can be
merged with the change.  A set looks at the one property, the second way at the whole record, and a
merge folds the entity and the change over the default record before it looks at the result.

* `Schema.accepts_congr`: the guard reads a record by its names, so the order of the entries plays no
  part.
* `Entity.find?_folded_change`: a valid record has every key of the default record, so nothing of
  that record is left after the merge.
* `Entity.ReadsAs.equal`: entities whose records are read alike are equal, so the order in which each
  way leaves the entries plays no part either.
* `writing_agrees`: the three ways succeed for the same values, exactly when the changed record is
  one of the schema, and then make equal entities; and a property can be unset exactly when the
  record without it is one of the schema.
-/

namespace Dossier

namespace Schema

variable {registry : Registry} {mode : Mode} {s : Schema} {t u : Fields Json}

/-- Records that are read alike are accepted alike. -/
theorem accepts_congr (h : ∀ name, Fields.find? t name = Fields.find? u name) :
    s.accepts registry mode (.obj t) = s.accepts registry mode (.obj u) := by
  have keys (name : String) : name ∈ Fields.keys t ↔ name ∈ Fields.keys u := by
    rw [Fields.mem_keys_iff, Fields.mem_keys_iff, h]
  rw [Bool.eq_iff_iff, accepts_obj_iff, accepts_obj_iff, keysPass_iff, keysPass_iff]
  simp only [keys, h]

/-- A record leaves no required property out. -/
theorem find?_ne_none_of_required (h : s.accepts registry mode (.obj t) = true) {name : String}
    (hn : name ∈ s.requiredNames) : Fields.find? t name ≠ none := by
  obtain ⟨p, hp, rfl⟩ := List.mem_map.mp hn
  obtain ⟨hm, ho⟩ := List.mem_filter.mp hp
  intro hf
  have holds := (accepts_obj_iff.mp h).2 p hm
  rw [hf, Property.holds] at holds
  simp [holds] at ho

end Schema

namespace Entity

variable {registry : Registry} {e f g h : Entity} {property : String} {value : Json}

/-- The record with a property's value replaced, or added where there is none. -/
def recordWith (e : Entity) (property : String) (value : Json) : Fields Json :=
  Fields.insert e.record property value

/-- What a merge of the entity with a change of one property folds. -/
def change (e : Entity) (property : String) (value : Json) : List Candidate :=
  [.entity e, .json (.obj [(property, value)])]

/-- A valid record has every key of the default record, so that nothing of the default shows through
it. -/
theorem find?_or_default (he : e.Valid registry) (name : String) :
    (Fields.find? e.record name).or (Fields.find? (e.schema.defaultFields registry) name)
      = Fields.find? e.record name := by
  cases hd : Fields.find? (e.schema.defaultFields registry) name with
  | none => exact Option.or_none
  | some v =>
      -- a key of the default record is one that the record cannot lack
      have key : name ∈ e.schema.requiredNames := by
        rw [← Schema.keys_defaultFields registry, Fields.mem_keys_iff, hd]
        exact Option.some_ne_none v
      obtain ⟨w, hw⟩ := Option.ne_none_iff_exists'.mp (Schema.find?_ne_none_of_required he key)
      rw [hw, Option.some_or]

/-- Merged with a change, a valid record is read as if the change were made in it. -/
theorem find?_folded_change (he : e.Valid registry) (hn : Fields.Nodup e.record) (name : String) :
    Fields.find? (folded registry e.schema (e.change property value)) name
      = Fields.find? (e.recordWith property value) name := by
  simp only [folded, change, contribution, List.foldl_cons, List.foldl_nil]
  rw [Fields.find?_update_of_nodup _ (by simp [Fields.Nodup, Fields.keys]),
    Fields.find?_update_of_nodup _ hn, find?_or_default he, recordWith, Fields.find?_insert]
  by_cases hp : property = name <;> simp [Fields.find?, hp]

theorem nodup_folded (registry : Registry) {schema : Schema} (hs : schema.propertyNames.Nodup)
    (sources : List Candidate) : Fields.Nodup (folded registry schema sources) := by
  have below (t : Fields Json) (ht : Fields.Nodup t) :
      Fields.Nodup (sources.foldl (fun t c => Fields.update t (contribution c)) t) := by
    induction sources generalizing t with
    | nil => exact ht
    | cons c rest ih => exact ih _ (Fields.nodup_update ht (contribution c))
  exact below _ (Schema.nodup_defaultFields registry hs)

/-- A set writes the record anew in the order of the declaration, and reads alike. -/
theorem find?_record_of_set (h : e.set registry property value = .ok f) (name : String) :
    Fields.find? f.record name = Fields.find? (e.recordWith property value) name := by
  obtain ⟨p, hp, -, rfl⟩ := set_eq_ok_iff.mp h
  have declared := Schema.mem_propertyNames_of_property? hp
  rw [Fields.find?_insertInOrder _ _ declared, recordWith, Fields.find?_insert]

/-- **A set looks at one property only, and decides as the whole guard would.** -/
theorem exists_set_iff (hs : e.schema.propertyNames.Nodup) (he : e.Valid registry)
    (hp : e.schema.declares property = true) :
    (∃ f, e.set registry property value = .ok f) ↔
      e.schema.accepts registry e.mode (.obj (e.recordWith property value)) = true := by
  obtain ⟨p, hp⟩ := Option.isSome_iff_exists.mp hp
  constructor
  · rintro ⟨f, hf⟩
    rw [← Schema.accepts_congr (find?_record_of_set hf)]
    have valid := (changed_of_set hf).valid hs he
    rwa [Valid, (changed_of_set hf).schema_eq, (changed_of_set hf).mode_eq] at valid
  · intro ha
    obtain ⟨hm, rfl⟩ := (Schema.property?_eq_some_iff hs).mp hp
    have holds := (Schema.accepts_obj_iff.mp ha).2 p hm
    rw [recordWith, Fields.find?_insert_self] at holds
    exact ⟨_, set_eq_ok_iff.mpr ⟨p, hp, holds, rfl⟩⟩

/-- An entity can be made of a value exactly when that is a record of the schema. -/
theorem exists_ofDto_iff {schema : Schema} {mode : Mode} {dto : Json} :
    (∃ f, Entity.ofDto registry schema dto mode = .ok f) ↔
      schema.accepts registry mode dto = true := by
  constructor
  · rintro ⟨f, hf⟩
    exact (ofDto_eq_ok_iff.mp hf).1
  · intro ha
    obtain ⟨fields, rfl⟩ := Schema.exists_obj_of_accepts ha
    exact ⟨⟨schema, fields, mode⟩, ofDto_eq_ok_iff.mpr ⟨ha, rfl, rfl, rfl⟩⟩

/-- A property can be unset exactly when the record without it is one of the schema. -/
theorem exists_unset_iff (hs : e.schema.propertyNames.Nodup) (he : e.Valid registry)
    (hp : e.schema.declares property = true) :
    (∃ f, e.unset property = .ok f) ↔
      e.schema.accepts registry e.mode (.obj (Fields.erase e.record property)) = true := by
  obtain ⟨p, hp⟩ := Option.isSome_iff_exists.mp hp
  constructor
  · rintro ⟨f, hf⟩
    obtain ⟨q, hq, ho, -⟩ := unset_eq_ok_iff.mp hf
    exact Schema.accepts_erase hs hq ho he
  · intro ha
    obtain ⟨hm, rfl⟩ := (Schema.property?_eq_some_iff hs).mp hp
    have holds := (Schema.accepts_obj_iff.mp ha).2 p hm
    rw [Fields.find?_erase_self, Property.holds] at holds
    exact ⟨_, unset_eq_ok_iff.mpr ⟨p, hp, holds, rfl⟩⟩

/-! ### What a write leaves -/

/-- An entity of the schema whose record is read like the given one, whatever the order. -/
structure ReadsAs (schema : Schema) (fields : Fields Json) (f : Entity) : Prop where
  schema_eq : f.schema = schema
  nodup : Fields.Nodup f.record
  find?_eq (name : String) : Fields.find? f.record name = Fields.find? fields name

/-- Entities of one schema are equal when they are read alike. -/
theorem ReadsAs.equal {schema : Schema} {fields : Fields Json} (hf : f.ReadsAs schema fields)
    (hg : g.ReadsAs schema fields) (hw : Json.WellFormed (.obj fields)) : f.equal g = true := by
  simp only [Entity.equal, hf.schema_eq, hg.schema_eq, beq_self_eq_true, Bool.true_and]
  refine Json.equal_obj_of_find? hf.nodup hg.nodup
    (fun name => (hf.find?_eq name).trans (hg.find?_eq name).symm) fun entry hm => ?_
  have read := hf.find?_eq entry.1
  rw [Fields.find?_of_mem hf.nodup hm] at read
  exact (hw.find? read.symm).equal_refl

theorem readsAs_of_set (hs : e.schema.propertyNames.Nodup) (hn : Fields.Nodup e.record)
    (hf : e.set registry property value = .ok f) :
    f.ReadsAs e.schema (e.recordWith property value) where
  schema_eq := (changed_of_set hf).schema_eq
  nodup := by
    obtain ⟨p, -, -, rfl⟩ := set_eq_ok_iff.mp hf
    exact Fields.nodup_insertInOrder hs hn property value
  find?_eq := find?_record_of_set hf

/-- An entity made of a record that is read like another one is read like the other. -/
theorem readsAs_of_ofDto {schema : Schema} {mode : Mode} {t fields : Fields Json}
    (hn : Fields.Nodup t) (h : ∀ name, Fields.find? t name = Fields.find? fields name)
    (hf : Entity.ofDto registry schema (.obj t) mode = .ok f) : f.ReadsAs schema fields := by
  obtain ⟨-, hs, -, hd⟩ := ofDto_eq_ok_iff.mp hf
  obtain rfl : f.record = t := Json.obj.inj hd
  exact ⟨hs, hn, h⟩

/-- Writing a value under a property comes to the same in all three ways. -/
structure WritesAlike (registry : Registry) (e : Entity) (property : String) (value : Json) :
    Prop where
  /-- A set succeeds when the changed record is one of the schema. -/
  set : (∃ f, e.set registry property value = .ok f) ↔
    e.schema.accepts registry e.mode (.obj (e.recordWith property value)) = true
  /-- So does making an entity of the changed record. -/
  ofDto : (∃ f, Entity.ofDto registry e.schema (.obj (e.recordWith property value)) e.mode = .ok f) ↔
    e.schema.accepts registry e.mode (.obj (e.recordWith property value)) = true
  /-- So does merging the entity with the change. -/
  merge : (∃ f, Entity.merge registry e.schema (e.change property value) e.mode = .ok f) ↔
    e.schema.accepts registry e.mode (.obj (e.recordWith property value)) = true
  /-- What the three make is equal. -/
  equal {f g h : Entity} : e.set registry property value = .ok f →
    Entity.ofDto registry e.schema (.obj (e.recordWith property value)) e.mode = .ok g →
    Entity.merge registry e.schema (e.change property value) e.mode = .ok h →
    f.equal g = true ∧ g.equal h = true ∧ f.equal h = true

theorem writesAlike (hs : e.schema.propertyNames.Nodup) (he : e.Valid registry)
    (hw : e.dto.WellFormed) (hp : e.schema.declares property = true) (hv : value.WellFormed) :
    e.WritesAlike registry property value where
  set := exists_set_iff hs he hp
  ofDto := exists_ofDto_iff
  merge := by
    rw [merge, exists_ofDto_iff, Schema.accepts_congr (find?_folded_change he hw.nodup)]
  equal {f g h} hf hg hh := by
    have written : Json.WellFormed (.obj (e.recordWith property value)) := hw.insert property hv
    have set := readsAs_of_set hs hw.nodup hf
    have made := readsAs_of_ofDto written.nodup (fun _ => rfl) hg
    have merged := readsAs_of_ofDto (nodup_folded registry hs _) (find?_folded_change he hw.nodup) hh
    exact ⟨set.equal made written, made.equal merged written, set.equal merged written⟩

end Entity

/-- **The ways to write a property agree with the guard of the whole record.**  For a valid entity of
a declared schema and a declared property, setting, making anew and merging succeed for the values
with which the record is one of the schema, and make equal entities; unsetting succeeds when the
record without the property is one of the schema, and leaves that record. -/
theorem writing_agrees {registry : Registry} {e : Entity} {serial : Nat} {name : String}
    {properties : List Property} (hs : Schema.declare serial name properties = .ok e.schema)
    (he : e.Valid registry) (hw : e.dto.WellFormed) {property : String}
    (hp : e.schema.declares property = true) :
    (∀ value : Json, value.WellFormed → e.WritesAlike registry property value)
    ∧ ((∃ f, e.unset property = .ok f) ↔
      e.schema.accepts registry e.mode (.obj (Fields.erase e.record property)) = true)
    ∧ ∀ f, e.unset property = .ok f → f = { e with record := Fields.erase e.record property } := by
  have names := Schema.nodup_of_declare hs
  refine ⟨fun value hv => Entity.writesAlike names he hw hp hv,
    Entity.exists_unset_iff names he hp, fun f hf => ?_⟩
  obtain ⟨-, -, -, rfl⟩ := Entity.unset_eq_ok_iff.mp hf
  rfl

/-- The tree in production, with a key that its schema does not declare. -/
def Entity.marked : Entity :=
  ⟨Schema.tree, ("mark", .str "m") :: Entity.tree.record, .production⟩

/-- In all three ways the tree takes a tree as its child and refuses a text; and it keeps a child. -/
theorem writing_agrees_marked :
    let registry := (Registry.empty.register Schema.tree).2
    let child : Json := .obj [("label", .str "c"), ("child", .null), ("mark", .zero)]
    Schema.declare 0 "Tree" Schema.tree.properties = .ok Entity.marked.schema
      ∧ Entity.marked.Valid registry ∧ Entity.marked.dto.WellFormed
      ∧ Entity.marked.schema.declares "child" = true
      ∧ (∃ f, Entity.marked.set registry "child" child = .ok f)
      ∧ (∃ f, Entity.ofDto registry Schema.tree (.obj (Entity.marked.recordWith "child" child))
          .production = .ok f)
      ∧ (∃ f, Entity.merge registry Schema.tree (Entity.marked.change "child" child) .production
          = .ok f)
      ∧ (¬ ∃ f, Entity.merge registry Schema.tree (Entity.marked.change "child" (.str "c"))
          .production = .ok f)
      ∧ ¬ ∃ f, Entity.marked.unset "child" = .ok f := by
  intro registry child
  have hs : Schema.declare 0 "Tree" Schema.tree.properties = .ok Entity.marked.schema := rfl
  have he : Entity.marked.Valid registry := by unfold Entity.Valid; decide
  have hw : Entity.marked.dto.WellFormed := by
    simp [Entity.marked, Entity.tree, Entity.dto, Json.WellFormed, Json.WellFormedFields,
      Fields.Nodup, Fields.keys]
  have hp : Entity.marked.schema.declares "child" = true := by decide
  obtain ⟨written, unset, -⟩ := writing_agrees hs he hw hp
  have taken := written child (by
    simp [child, Json.WellFormed, Json.WellFormedFields, Fields.Nodup, Fields.keys, Json.zero])
  have refused := written (.str "c") (by simp [Json.WellFormed])
  exact ⟨hs, he, hw, hp, taken.set.mpr (by decide), taken.ofDto.mpr (by decide),
    taken.merge.mpr (by decide), fun h => absurd (refused.merge.mp h) (by decide),
    fun h => absurd (unset.mp h) (by decide)⟩

end Dossier
