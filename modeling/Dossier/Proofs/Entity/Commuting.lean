import Dossier.Proofs.Entity.Writing
import Dossier.Proofs.Fields

/-!
# Entity — calls on different properties

A call that succeeds gives one property a value or leaves it out, and whether it succeeds does not
depend on the record (`Change.verdict`).  So the order of calls on different properties could show in
the order of the keys only: a value that replaces one keeps its place, while a new one arranges the
whole record in the order of the declaration.

* `Edit.names_comm`: it does not show there either.  Arranging forgets where the declared keys stood,
  and neither a write nor a removal moves the undeclared ones.
* `Edit.on_comm`, `Edit.on_on`: edits of different properties commute, and of two writes of one
  property the first leaves no trace.
* `changes_commute`: so do the calls, those that fail among them; hence calls on different properties
  may be made in any order (`Change.run_perm`).
-/

namespace Dossier

open Fields (keys find? placed)

/-- What a call does to a record. -/
structure Edit where
  property : String
  /-- The value that the property gets; none where it is left out. -/
  value? : Option Json

namespace Edit

/-- The record after the edit, where the declaration has its properties in the given order. -/
def on (order : List String) (t : Fields Json) (w : Edit) : Fields Json :=
  match w.value? with
  | some value => Fields.insertInOrder order t w.property value
  | none => Fields.erase t w.property

/-- The keys after the edit. -/
def names (order before : List String) (w : Edit) : List String :=
  match w.value? with
  | some _ => placed order before w.property
  | none => before.filter (· ≠ w.property)

variable {order before : List String} {t : Fields Json} {v w : Edit}

theorem find?_on (hw : w.property ∈ order) (name : String) :
    find? (w.on order t) name = if w.property = name then w.value? else find? t name := by
  obtain ⟨property, value?⟩ := w
  cases value? with
  | none => exact Fields.find?_erase t property name
  | some value => exact Fields.find?_insertInOrder t value hw name

theorem keys_on (hw : w.property ∈ order) : keys (w.on order t) = w.names order (keys t) := by
  obtain ⟨property, value?⟩ := w
  cases value? with
  | none => exact Fields.keys_erase t property
  | some value => exact Fields.keys_insertInOrder t value hw

theorem nodup_on (ho : order.Nodup) (ht : Fields.Nodup t) (w : Edit) :
    Fields.Nodup (w.on order t) := by
  obtain ⟨property, value?⟩ := w
  cases value? with
  | none => exact Fields.nodup_erase ht property
  | some value => exact Fields.nodup_insertInOrder ho ht property value

/-- The keys do not show which of two edits came first. -/
theorem names_comm (h : v.property ≠ w.property) (hv : v.property ∈ order)
    (hw : w.property ∈ order) :
    w.names order (v.names order before) = v.names order (w.names order before) := by
  obtain ⟨a, value?⟩ := v
  obtain ⟨b, other?⟩ := w
  cases value? with
  | none =>
      cases other? with
      | none => exact List.filter_comm ..
      | some _ => exact (Fields.filter_placed h.symm).symm
  | some _ =>
      cases other? with
      | none => exact Fields.filter_placed h
      | some _ => exact Fields.placed_comm h hv hw

/-- **Edits of different properties commute.** -/
theorem on_comm (ho : order.Nodup) (ht : Fields.Nodup t) (h : v.property ≠ w.property)
    (hv : v.property ∈ order) (hw : w.property ∈ order) :
    w.on order (v.on order t) = v.on order (w.on order t) := by
  refine Fields.eq_of_find? (nodup_on ho (nodup_on ho ht v) w) ?_ fun name => ?_
  · rw [keys_on hw, keys_on hv, names_comm h hv hw, ← keys_on hw, ← keys_on hv]
  · rw [find?_on hw, find?_on hv, find?_on hv, find?_on hw]
    by_cases hn : w.property = name
    · rw [if_pos hn, if_neg (hn ▸ h), if_pos hn]
    · rw [if_neg hn, if_neg hn]

/-- Of two writes of one property the first leaves no trace. -/
theorem on_on (ho : order.Nodup) (ht : Fields.Nodup t) (h : v.property = w.property)
    (hw : w.property ∈ order) (hvs : v.value?.isSome) (hws : w.value?.isSome) :
    w.on order (v.on order t) = w.on order t := by
  have hv : v.property ∈ order := h ▸ hw
  refine Fields.eq_of_find? (nodup_on ho (nodup_on ho ht v) w) ?_ fun name => ?_
  · obtain ⟨a, value?⟩ := v
    obtain ⟨b, other?⟩ := w
    obtain rfl : a = b := h
    obtain ⟨value, rfl⟩ := Option.isSome_iff_exists.mp hvs
    obtain ⟨other, rfl⟩ := Option.isSome_iff_exists.mp hws
    rw [keys_on hw, keys_on hv, keys_on hw]
    exact Fields.placed_of_mem (Fields.mem_placed.mpr (.inl rfl))
  · rw [find?_on hw, find?_on hv, find?_on hw, h]
    by_cases hn : w.property = name
    · rw [if_pos hn, if_pos hn]
    · rw [if_neg hn, if_neg hn, if_neg hn]

end Edit

/-! ### What a call comes to -/

namespace Change

/-- The property that the call names. -/
def property : Change → String
  | .set property _ => property
  | @setAs _ _ property _ => property
  | .unset property => property
  | .setOptional property _ => property

/-- Does the call set the property, rather than unset it? -/
def sets : Change → Bool
  | .set _ _ => true
  | @setAs _ _ _ _ => true
  | .unset _ => false
  | .setOptional _ value => value.isSome

/-- Why the call fails, if it does. -/
def failure? (registry : Registry) (e : Entity) (c : Change) : Option EntityError :=
  match c.apply registry e with
  | .ok _ => none
  | .error error => some error

/-- What a call comes to, whatever the record. -/
inductive Verdict (registry : Registry) (schema : Schema) (mode : Mode) (c : Change) : Prop where
  /-- It fails, with one error. -/
  | fails (error : EntityError)
      (apply_eq : ∀ record, c.apply registry ⟨schema, record, mode⟩ = .error error)
  /-- It edits the property that it names, which is declared. -/
  | edits (w : Edit) (property_eq : w.property = c.property)
      (declared : w.property ∈ schema.propertyNames) (isSome_eq : w.value?.isSome = c.sets)
      (apply_eq : ∀ record, c.apply registry ⟨schema, record, mode⟩
        = .ok ⟨schema, w.on schema.propertyNames record, mode⟩)

/-- A call that comes to the same as another one has its verdict. -/
theorem Verdict.of_apply_eq {registry : Registry} {schema : Schema} {mode : Mode} {c d : Change}
    (hd : Verdict registry schema mode d) (property : d.property = c.property)
    (sets : d.sets = c.sets) (h : ∀ e, c.apply registry e = d.apply registry e) :
    Verdict registry schema mode c := by
  cases hd with
  | fails error apply_eq => exact .fails error fun record => (h _).trans (apply_eq record)
  | edits w property_eq declared isSome_eq apply_eq =>
      exact .edits w (property_eq.trans property) declared (isSome_eq.trans sets)
        fun record => (h _).trans (apply_eq record)

section Verdict

variable (registry : Registry) (schema : Schema) (mode : Mode)

theorem verdict_set (property : String) (value : Json) :
    Verdict registry schema mode (.set property value) := by
  cases hp : schema.property? property with
  | none =>
      refine .fails (.unknownProperty schema.name property) fun record => ?_
      simp [apply, Entity.set_eq, hp]
  | some p =>
      have hok : (p.report registry mode (some value)).ok = p.fits registry mode value :=
        p.ok_report (some value)
      by_cases hv : p.fits registry mode value = true
      · have declared := Schema.mem_propertyNames_of_property? hp
        exact .edits ⟨property, some value⟩ rfl declared rfl fun record =>
          Entity.set_eq_ok_iff.mpr ⟨p, hp, hv, rfl⟩
      · refine .fails (.invalidProperty schema.name property
          (String.intercalate "\n" (p.report registry mode (some value)).lines)) fun record => ?_
        simp [apply, Entity.set_eq, hp, hok, hv]

theorem verdict_unset (property : String) : Verdict registry schema mode (.unset property) := by
  cases hp : schema.property? property with
  | none =>
      refine .fails (.unknownProperty schema.name property) fun record => ?_
      simp [apply, Entity.unset_eq, hp]
  | some p =>
      by_cases ho : p.isOptional = true
      · have declared := Schema.mem_propertyNames_of_property? hp
        exact .edits ⟨property, none⟩ rfl declared rfl fun record =>
          Entity.unset_eq_ok_iff.mpr ⟨p, hp, ho, rfl⟩
      · refine .fails (.requiredProperty schema.name property) fun record => ?_
        simp [apply, Entity.unset_eq, hp, ho]

/-- **What a call does to an entity does not depend on the record.** -/
theorem verdict (c : Change) : Verdict registry schema mode c := by
  cases c with
  | set property value => exact verdict_set registry schema mode property value
  | @setAs α _ property value =>
      cases hv : Codec.encode value with
      | error cause =>
          refine .fails (.notEncoded schema.name property cause) fun record => ?_
          simp [apply, Entity.setAs, hv]
      | ok v =>
          refine (verdict_set registry schema mode property v).of_apply_eq rfl rfl fun e => ?_
          simp [apply, Entity.setAs, hv]
  | unset property => exact verdict_unset registry schema mode property
  | setOptional property value =>
      cases value with
      | none =>
          exact (verdict_unset registry schema mode property).of_apply_eq rfl rfl fun _ => rfl
      | some value =>
          exact (verdict_set registry schema mode property value).of_apply_eq rfl rfl fun _ => rfl

end Verdict

/-! ### Two calls -/

/-- Each of two calls comes to the same before and after the other, and both lead to one entity in
either order. -/
structure Commute (registry : Registry) (e : Entity) (c d : Change) : Prop where
  first : c.failure? registry (d.after registry e) = c.failure? registry e
  second : d.failure? registry (c.after registry e) = d.failure? registry e
  after : d.after registry (c.after registry e) = c.after registry (d.after registry e)

variable {registry : Registry} {e : Entity} {c d : Change}

/-- Whether and why a call fails does not depend on the calls before it. -/
theorem failure?_after (c d : Change) :
    c.failure? registry (d.after registry e) = c.failure? registry e := by
  obtain ⟨schema, record, mode⟩ := e
  rcases verdict registry schema mode c with ⟨error, hc⟩ | ⟨w, -, -, -, hc⟩ <;>
    rcases verdict registry schema mode d with ⟨error', hd⟩ | ⟨v, -, -, -, hd⟩ <;>
    simp [failure?, after, hc, hd]

/-- Calls on different properties commute. -/
theorem commute (hs : e.schema.propertyNames.Nodup) (he : Fields.Nodup e.record)
    (h : c.property ≠ d.property) : c.Commute registry e d where
  first := failure?_after c d
  second := failure?_after d c
  after := by
    obtain ⟨schema, record, mode⟩ := e
    rcases verdict registry schema mode c with ⟨error, hc⟩ | ⟨w, hwp, hwd, -, hc⟩
    · rcases verdict registry schema mode d with ⟨error', hd⟩ | ⟨v, -, -, -, hd⟩ <;>
        simp [after, hc, hd]
    · rcases verdict registry schema mode d with ⟨error', hd⟩ | ⟨v, hvp, hvd, -, hd⟩
      · simp [after, hc, hd]
      · have different : w.property ≠ v.property := by rwa [hwp, hvp]
        simp [after, hc, hd, Edit.on_comm hs he different hwd hvd]

/-- Of two sets of one property that succeed, the second alone leads to the same entity. -/
theorem apply_eq_of_sets (hs : e.schema.propertyNames.Nodup) (he : Fields.Nodup e.record)
    (h : c.property = d.property) (hcs : c.sets = true) (hds : d.sets = true) {f g : Entity}
    (hf : c.apply registry e = .ok f) (hg : d.apply registry f = .ok g) :
    d.apply registry e = .ok g := by
  obtain ⟨schema, record, mode⟩ := e
  cases verdict registry schema mode c with
  | fails error hc => simp [hc] at hf
  | edits w hwp hwd hws hc =>
      obtain rfl : _ = f := by simpa [hc] using hf
      cases verdict registry schema mode d with
      | fails error hd => simp [hd] at hg
      | edits v hvp hvd hvs hd =>
          have same : w.property = v.property := by rw [hwp, hvp, h]
          rw [hd, Edit.on_on hs he same hvd (hws.trans hcs) (hvs.trans hds)] at hg
          rwa [hd]

/-! ### Several calls -/

/-- The entity after some calls. -/
def run (registry : Registry) (e : Entity) (calls : List Change) : Entity :=
  calls.foldl (after registry) e

theorem schema_after (c : Change) : (c.after registry e).schema = e.schema := by
  obtain ⟨schema, record, mode⟩ := e
  cases verdict registry schema mode c with
  | fails error hc => simp [after, hc]
  | edits w hwp hwd hws hc => simp [after, hc]

theorem nodup_after (hs : e.schema.propertyNames.Nodup) (he : Fields.Nodup e.record) (c : Change) :
    Fields.Nodup (c.after registry e).record := by
  obtain ⟨schema, record, mode⟩ := e
  cases verdict registry schema mode c with
  | fails error hc => simpa [after, hc] using he
  | edits w hwp hwd hws hc => simpa [after, hc] using Edit.nodup_on hs he w

/-- Calls on different properties may be made in any order. -/
theorem run_perm {calls others : List Change} (hs : e.schema.propertyNames.Nodup)
    (he : Fields.Nodup e.record) (h : calls.Perm others)
    (different : calls.Pairwise fun c d => c.property ≠ d.property) :
    run registry e calls = run registry e others := by
  induction h generalizing e with
  | nil => rfl
  | cons c h ih =>
      exact ih ((schema_after c).symm ▸ hs) (nodup_after hs he c) (List.pairwise_cons.mp different).2
  | swap c d rest =>
      have ne : d.property ≠ c.property :=
        (List.pairwise_cons.mp different).1 c (List.mem_cons_self ..)
      exact congrArg (fun f => run registry f rest) (commute hs he ne).after
  | trans h _ ih₁ ih₂ => exact (ih₁ hs he different).trans (ih₂ hs he (different.perm h Ne.symm))

end Change

/-- **Calls on different properties commute.**  Whatever the keys of an entity of a declared schema
and whatever their order, two calls on different properties each succeed or fail alike before and
after the other, and leave the same entity, with the same order of keys, in either order; and of two
sets of one property that succeed the second alone leaves the same entity. -/
theorem changes_commute {serial : Nat} {name : String} {properties : List Property} {e : Entity}
    (hs : Schema.declare serial name properties = .ok e.schema) (he : Fields.Nodup e.record)
    (registry : Registry) :
    (∀ c d : Change, c.property ≠ d.property → c.Commute registry e d)
    ∧ ∀ c d : Change, c.property = d.property → c.sets = true → d.sets = true →
      ∀ f g : Entity, c.apply registry e = .ok f → d.apply registry f = .ok g →
        d.apply registry e = .ok g := by
  have names := Schema.nodup_of_declare hs
  exact ⟨fun c d h => Change.commute names he h,
    fun c d h hc hd f g hf hg => Change.apply_eq_of_sets names he h hc hd hf hg⟩

/-- The tree has a key that is not declared before the two that are, and no note.  A note is set, and
before or after it the label is set, or the key that is not declared is unset, which fails. -/
theorem changes_commute_marked :
    let registry := (Registry.empty.register Schema.tree).2
    let note (text : String) : Change := .setAs "note" text
    let label : Change := .set "label" (.str "b")
    let mark : Change := .setOptional "mark" none
    Schema.declare 0 "Tree" Schema.tree.properties = .ok Entity.marked.schema
      ∧ Fields.Nodup Entity.marked.record
      ∧ (note "n").Commute registry Entity.marked label
      ∧ (note "n").Commute registry Entity.marked mark
      ∧ mark.failure? registry Entity.marked = some (.unknownProperty "Tree" "mark")
      ∧ Fields.keys (label.after registry ((note "n").after registry Entity.marked)).record
        = ["label", "child", "note", "mark"]
      ∧ (note "m").apply registry Entity.marked
        = .ok ((note "m").after registry ((note "n").after registry Entity.marked)) := by
  intro registry note label mark
  have hs : Schema.declare 0 "Tree" Schema.tree.properties = .ok Entity.marked.schema := rfl
  have he : Fields.Nodup Entity.marked.record := by
    simp [Entity.marked, Entity.tree, Fields.Nodup, Fields.keys]
  obtain ⟨commute, again⟩ := changes_commute hs he registry
  have different : (note "n").property ≠ label.property := by simp [note, label, Change.property]
  have undeclared : (note "n").property ≠ mark.property := by simp [note, mark, Change.property]
  exact ⟨hs, he, commute _ _ different, commute _ _ undeclared, rfl, rfl,
    again (note "n") (note "m") rfl rfl rfl _ _ rfl rfl⟩

end Dossier
