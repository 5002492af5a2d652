import Dossier.Entity.Typed
import Dossier.Proofs.Entity.Lifetime
import Dossier.Proofs.Schema.Registry

/-!
# Entity — conversion to a typed one

A typed entity takes over an entity that was made for the very same schema as it is, and checks the
record of any other.  Which schema it is the serial number tells.

* `Typed.ofEntity_eq_ofDto`: a valid entity of the schema would pass the check, and nothing of it would
  be lost.  So the short cut comes to the same as the check.
* `Typed.Made.schema_eq`: in whatever way a typed entity comes to be, it is of its schema.
* `conversion_agrees`: so it is for all schemas that a program has got, since serial numbers tell these
  apart, and for all entities that once were valid, since the registry grows only.
-/

namespace Dossier

namespace Typed

variable {schema : Schema} {registry : Registry} {e : Entity} {t : Typed schema}

theorem map_eq_ok_iff {made : Except EntityError Entity} :
    made.map Typed.mk = .ok t ↔ made = .ok t.entity := by
  obtain ⟨e⟩ := t
  cases made <;> simp [Except.map]

/-- **The short cut comes to the same as the check.** -/
theorem ofEntity_eq_ofDto (same : e.schema.serial = schema.serial → e.schema = schema)
    (he : e.Valid registry) :
    (Typed.ofEntity registry e : Except EntityError (Typed schema))
      = Typed.ofDto registry e.dto e.mode := by
  rw [Typed.ofEntity]
  split
  · next serial_eq =>
    obtain rfl := same serial_eq
    have made : Entity.ofDto registry e.schema e.dto e.mode = .ok e :=
      Entity.ofDto_eq_ok_iff.mpr ⟨he, rfl, rfl, rfl⟩
    exact (map_eq_ok_iff.mpr made).symm
  · rfl

theorem ofEntity_eq_ok_iff (same : e.schema.serial = schema.serial → e.schema = schema)
    (he : e.Valid registry) :
    Typed.ofEntity registry e = .ok t ↔
      schema.accepts registry e.mode e.dto = true
        ∧ t.entity.schema = schema ∧ t.entity.mode = e.mode ∧ t.entity.dto = e.dto := by
  rw [ofEntity_eq_ofDto same he, Typed.ofDto, map_eq_ok_iff, Entity.ofDto_eq_ok_iff]

theorem ofEntity_of_schema_eq (registry : Registry) (h : t.entity.schema = schema) :
    Typed.ofEntity registry t.entity = .ok t := by
  rw [Typed.ofEntity, if_pos (congrArg Schema.serial h)]

/-- How a typed entity comes to be: in one of the ways in which entities are made, from an entity of
one of the given schemas, or from another typed entity that is changed. -/
inductive Made (schemas : List Schema) : Typed schema → Prop where
  | create (registry : Registry) (mode : Mode) : Made schemas (Typed.create registry mode)
  | ofDto {registry : Registry} {dto : Json} {mode : Mode} {t : Typed schema}
      (h : Typed.ofDto registry dto mode = .ok t) : Made schemas t
  | merge {registry : Registry} {sources : List Candidate} {mode : Mode} {t : Typed schema}
      (h : Typed.merge registry sources mode = .ok t) : Made schemas t
  | ofEntity {registry : Registry} {e : Entity} {t : Typed schema} (he : e.schema ∈ schemas)
      (h : Typed.ofEntity registry e = .ok t) : Made schemas t
  | set {registry : Registry} {α : Type} [Codec α] {t u : Typed schema} {field : Field α} {value : α}
      (ht : Made schemas t) (h : t.set registry field value = .ok u) : Made schemas u
  | unset {α : Type} {t u : Typed schema} {field : Field α} (ht : Made schemas t)
      (h : t.unset field = .ok u) : Made schemas u

/-- **A typed entity is of its schema**, if the serial number of the schema is none of another one. -/
theorem Made.schema_eq {schemas : List Schema}
    (same : ∀ s ∈ schemas, s.serial = schema.serial → s = schema) (h : Made schemas t) :
    t.entity.schema = schema := by
  have ofDto {registry : Registry} {dto : Json} {mode : Mode} {t : Typed schema}
      (h : Typed.ofDto registry dto mode = .ok t) : t.entity.schema = schema :=
    (Entity.ofDto_eq_ok_iff.mp (map_eq_ok_iff.mp h)).2.1
  induction h with
  | create registry mode => rfl
  | ofDto h => exact ofDto h
  | merge h => exact ofDto h
  | ofEntity he h =>
      rw [Typed.ofEntity] at h
      split at h
      · next serial_eq =>
        cases h
        exact same _ he serial_eq
      · exact ofDto h
  | @set registry α _ t u field value _ h ih =>
      have changed := Change.changed (c := .setAs field.key value) (map_eq_ok_iff.mp h)
      exact changed.schema_eq.trans ih
  | @unset α t u field _ h ih =>
      have changed : t.entity.Changed .empty u.entity :=
        Entity.changed_of_unset (map_eq_ok_iff.mp h)
      exact changed.schema_eq.trans ih

end Typed

/-- **A conversion to a typed entity agrees with the guard.**  Of all that a program declares and
publishes, let a schema be fixed for typed entities, and let an entity of any of its schemas be valid at
some time.  At any later time the conversion of the entity succeeds exactly when its record is one of
the fixed schema in the entity's mode, and gives that record, with its order of keys, in that mode and
of that schema.  And every typed entity of the schema, taken as an entity, is converted back into
itself. -/
theorem conversion_agrees {before later : List Declaration} {schema : Schema} {e : Entity}
    (hs : schema ∈ ((Stock.empty.run before).run later).schemas)
    (he : e.schema ∈ ((Stock.empty.run before).run later).schemas)
    (hv : e.Valid (Stock.empty.run before).catalog.registry) :
    let now := (Stock.empty.run before).run later
    ((∃ t : Typed schema, Typed.ofEntity now.catalog.registry e = .ok t) ↔
      schema.accepts now.catalog.registry e.mode e.dto = true)
    ∧ (∀ t : Typed schema, Typed.ofEntity now.catalog.registry e = .ok t →
      t.entity.dto = e.dto ∧ t.entity.mode = e.mode ∧ t.entity.schema = schema)
    ∧ ∀ t : Typed schema, t.Made now.schemas →
      Typed.ofEntity now.catalog.registry t.entity = .ok t := by
  intro now
  have numbered : now.Numbered := (Stock.numbered_empty.run before).run later
  have same : e.schema.serial = schema.serial → e.schema = schema := numbered.unique he hs
  have valid : e.Valid now.catalog.registry := hv.extends (Stock.extends_run _ later)
  refine ⟨⟨?_, fun accepted => ?_⟩, fun t converted => ?_, fun t made => ?_⟩
  · rintro ⟨t, converted⟩
    exact ((Typed.ofEntity_eq_ok_iff same valid).mp converted).1
  · exact ⟨⟨⟨schema, e.record, e.mode⟩⟩,
      (Typed.ofEntity_eq_ok_iff same valid).mpr ⟨accepted, rfl, rfl, rfl⟩⟩
  · obtain ⟨-, schema_eq, mode_eq, dto_eq⟩ := (Typed.ofEntity_eq_ok_iff same valid).mp converted
    exact ⟨dto_eq, mode_eq, schema_eq⟩
  · refine Typed.ofEntity_of_schema_eq _ (made.schema_eq fun s member serial_eq => ?_)
    exact numbered.unique member hs serial_eq

/-- Another schema of the name: a tree that has no child. -/
def Schema.stump : Schema := .mk 1 "Tree" [.mk "label" [.string] false, .mk "child" [.null] false]

/-- A stump, its keys against the order of the declaration. -/
def Entity.stump : Entity :=
  ⟨Schema.stump, [("child", .null), ("label", .str "s")], .development⟩

/-- Trees are declared and registered, then stumps; later the name is taken when stumps are to be
registered.  A stump is converted to a typed tree, and the tree, which has a child, to no typed stump;
a typed tree that was made stays what it is. -/
theorem conversion_agrees_tree :
    let before : List Declaration := [.declare "Tree" Schema.tree.properties true,
      .declare "Tree" Schema.stump.properties false]
    let later : List Declaration := [.declare "Leaf" [] true, .register 1]
    let now := (Stock.empty.run before).run later
    Schema.tree ∈ now.schemas ∧ Schema.stump ∈ now.schemas
      ∧ Entity.tree.Valid (Stock.empty.run before).catalog.registry
      ∧ Entity.stump.Valid (Stock.empty.run before).catalog.registry
      ∧ (∃ t : Typed Schema.tree, Typed.ofEntity now.catalog.registry Entity.stump = .ok t
        ∧ t.entity.dto = Entity.stump.dto ∧ t.entity.schema = Schema.tree)
      ∧ (¬ ∃ t : Typed Schema.stump, Typed.ofEntity now.catalog.registry Entity.tree = .ok t)
      ∧ ∃ t : Typed Schema.tree, t.Made now.schemas
        ∧ Typed.ofEntity now.catalog.registry t.entity = .ok t := by
  intro before later now
  have schemas_eq : now.schemas = [Schema.tree, Schema.stump, .mk 2 "Leaf" [], Schema.tree] := rfl
  have trees : Schema.tree ∈ now.schemas := by
    rw [schemas_eq]
    exact List.mem_cons_self ..
  have stumps : Schema.stump ∈ now.schemas := by
    rw [schemas_eq]
    exact List.mem_cons_of_mem _ (List.mem_cons_self ..)
  have tree : Entity.tree.Valid (Stock.empty.run before).catalog.registry := by
    unfold Entity.Valid
    decide
  have stump : Entity.stump.Valid (Stock.empty.run before).catalog.registry := by
    unfold Entity.Valid
    decide
  obtain ⟨taken, kept, back⟩ := conversion_agrees (e := Entity.stump) trees stumps stump
  obtain ⟨refused, -, -⟩ := conversion_agrees (e := Entity.tree) stumps trees tree
  obtain ⟨t, converted⟩ := taken.mpr (by decide)
  obtain ⟨dto_eq, -, schema_eq⟩ := kept t converted
  have made : t.Made now.schemas := .ofEntity stumps converted
  exact ⟨trees, stumps, tree, stump, ⟨t, converted, dto_eq, schema_eq⟩,
    fun h => absurd (refused.mp h) (by decide), t, made, back t made⟩

end Dossier
