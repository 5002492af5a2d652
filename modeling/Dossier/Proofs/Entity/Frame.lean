import Dossier.Proofs.Entity.Commuting

/-!
# Entity — what a call leaves alone

Here a call works on the entity in place, one statement after the other, and what it has written by
the time it fails stays written.  A property that is written for the first time has the record
emptied and refilled: in the order of the declaration with what the record had and the new value, and
then with what is left over.

* `Entity.run_refill`: the refilled record has every entry it had, and the new one in its place; none
  is lost, written twice or written over.
* `Change.run_inPlace`: a call in place comes to what the call comes to, and when it fails it has
  written nothing.
* `Edit.leaves`: an edit touches its own property and nothing else.
* `calls_frame`: so a call that fails leaves the entity as it was, and one that succeeds changes
  nothing but the property it names.
-/

namespace Dossier

open Fields (keys find? select without)

/-! ### Entries behind the others -/

namespace Fields

variable {α : Type} {t u : Fields α} {name : String} {names : List String}

theorem insert_of_not_mem (h : name ∉ keys t) (value : α) :
    insert t name value = t ++ [(name, value)] := by
  induction t with
  | nil => rfl
  | cons e rest ih =>
      obtain ⟨hn, hr⟩ := List.ne_and_not_mem_of_not_mem_cons h
      rw [insert, if_neg hn.symm, ih hr, List.cons_append]

/-- Entries under new names come behind the others. -/
theorem update_eq_append (h : Nodup (t ++ u)) : update t u = t ++ u := by
  induction u generalizing t with
  | nil => exact (List.append_nil t).symm
  | cons e rest ih =>
      have names : (keys t ++ keys (e :: rest)).Nodup := List.map_append ▸ h
      have new : e.1 ∉ keys t := fun hm =>
        (List.nodup_append.mp names).2.2 e.1 hm e.1 (List.mem_cons_self ..) rfl
      have step : update t (e :: rest) = update (t ++ [e]) rest :=
        congrArg (update · rest) (insert_of_not_mem new e.2)
      rw [step, ih (by rwa [List.append_assoc]), List.append_assoc, List.singleton_append]

theorem erase_of_not_mem (h : name ∉ keys t) : erase t name = t :=
  List.filter_eq_self.mpr fun e he => by
    have ne : e.1 ≠ name := fun hn => h (hn ▸ List.mem_map_of_mem he)
    simpa using ne

theorem without_concat (t : Fields α) (names : List String) (name : String) :
    without t (names ++ [name]) = erase (without t names) name := by
  simp only [without, erase, List.filter_filter]
  refine List.filter_congr fun e _ => ?_
  simp [not_or, and_comm]

/-- One more name that is selected comes behind the others. -/
theorem select_concat_of_some {value : α} (h : find? t name = some value) (hn : name ∉ names) :
    select t (names ++ [name]) = insert (select t names) name value := by
  have new : name ∉ keys (select t names) := fun hm =>
    hn (List.mem_filter.mp (keys_select t names ▸ hm)).1
  rw [insert_of_not_mem new, select, List.filterMap_append]
  simp [select, h]

theorem select_concat_of_none (h : find? t name = none) :
    select t (names ++ [name]) = select t names := by
  rw [select, List.filterMap_append]
  simp [select, h]

end Fields

/-! ### Calls in place -/

/-- A call that works on an entity in place. -/
abbrev InPlace := EStateM EntityError Entity Unit

namespace Entity

def writeInPlace (name : String) (value : Json) : InPlace :=
  modify fun e => { e with record := Fields.insert e.record name value }

/-- Refills an emptied record, in the order of the given properties, with what it had before and the
value that is pending, and then with what is left over. -/
def refill (property : String) : List String → Fields Json → Option Json → InPlace
  | [], previous, _ => modify fun e => { e with record := Fields.update e.record previous }
  | declared :: rest, previous, pending =>
    if declared = property then
      match pending with
      | some value => do
        writeInPlace property value
        refill property rest previous none
      | none => refill property rest previous none
    else
      match find? previous declared with
      | some existing => do
        writeInPlace declared existing
        refill property rest (Fields.erase previous declared) pending
      | none => refill property rest previous pending

def setInPlace (registry : Registry) (property : String) (value : Json) : InPlace := do
  let e ← get
  match e.schema.property? property with
  | none => throw (.unknownProperty e.schema.name property)
  | some p =>
    let r := p.report registry e.mode (some value)
    unless r.ok do
      throw (.invalidProperty e.schema.name property (String.intercalate "\n" r.lines))
    if Fields.contains e.record property then writeInPlace property value
    else
      modify fun e => { e with record := [] }
      refill property e.schema.propertyNames e.record (some value)

def unsetInPlace (property : String) : InPlace := do
  let e ← get
  match e.schema.property? property with
  | none => throw (.unknownProperty e.schema.name property)
  | some p =>
    unless p.isOptional do throw (.requiredProperty e.schema.name property)
    modify fun e => { e with record := Fields.erase e.record property }

variable {registry : Registry} {e : Entity} {property : String} {t : Fields Json}

/-- **The refilled record has every entry it had**, and the new one in its place.  The properties
that are done stand in the record, and what they had is no longer left over. -/
theorem run_refill (schema : Schema) (mode : Mode) (value : Json) (new : property ∉ keys t)
    (ht : Fields.Nodup t) (rest done : List String) (ho : (done ++ rest).Nodup) :
    (refill property rest (without t done) (if property ∈ done then none else some value)).run
        ⟨schema, select ((property, value) :: t) done, mode⟩
      = .ok () ⟨schema, select ((property, value) :: t) (done ++ rest) ++ without t (done ++ rest),
          mode⟩ := by
  induction rest generalizing done with
  | nil =>
      have apart := Fields.nodup_select_append_without (List.append_nil done ▸ ho)
        ((property, value) :: t) ht
      rw [List.append_nil, ← Fields.update_eq_append apart]
      rfl
  | cons declared rest ih =>
      have next := ih (done ++ [declared]) (by rwa [List.append_assoc])
      rw [List.append_assoc, List.singleton_append] at next
      rw [← next]
      have first : declared ∉ done := fun hm =>
        (List.nodup_append.mp ho).2.2 declared hm declared (List.mem_cons_self ..) rfl
      have left : find? (without t done) declared = find? t declared := by
        rw [Fields.find?_without, if_neg first]
      rw [refill.eq_def]
      dsimp only
      by_cases hn : declared = property
      · -- the pending value is written, and nothing that was left over goes
        subst hn
        have found : find? ((declared, value) :: t) declared = some value := if_pos rfl
        have kept : without t (done ++ [declared]) = without t done := by
          rw [Fields.without_concat, Fields.erase_of_not_mem fun hm => new ?_]
          exact (List.mem_filter.mp (Fields.keys_without t done ▸ hm)).1
        rw [if_pos rfl, if_neg first, kept, Fields.select_concat_of_some found first,
          if_pos (List.mem_append_right _ (List.mem_singleton.mpr rfl))]
        rfl
      · have pending : property ∈ done ++ [declared] ↔ property ∈ done := by
          simp [Ne.symm hn]
        rw [if_neg hn, left]
        simp only [pending]
        cases had : find? t declared with
        | some existing =>
            have found : find? ((property, value) :: t) declared = some existing :=
              (if_neg (Ne.symm hn)).trans had
            rw [Fields.without_concat, Fields.select_concat_of_some found first]
            rfl
        | none =>
            have found : find? ((property, value) :: t) declared = none :=
              (if_neg (Ne.symm hn)).trans had
            have kept : without t (done ++ [declared]) = without t done := by
              rw [Fields.without_concat, Fields.erase_of_not_mem]
              exact (Fields.find?_eq_none_iff ..).mp (left.trans had)
            rw [kept, Fields.select_concat_of_none found]

/-- What is left in place of the entity when a call comes to the result. -/
def replaced (e : Entity) : Except EntityError Entity → EStateM.Result EntityError Entity Unit
  | .ok f => .ok () f
  | .error error => .error error e

theorem run_setInPlace (registry : Registry) (property : String) (value : Json)
    (hs : e.schema.propertyNames.Nodup) (he : Fields.Nodup e.record) :
    (setInPlace registry property value).run e = e.replaced (e.set registry property value) := by
  rw [set_eq, setInPlace]
  cases hp : e.schema.property? property with
  | none => simp [hp, replaced]
  | some p =>
      by_cases hok : (p.report registry e.mode (some value)).ok = true
      · by_cases hc : Fields.contains e.record property = true
        · simp [hp, hok, hc, replaced, writeInPlace, Fields.insertInOrder]
        · have new : property ∉ keys e.record := by rwa [← Fields.contains_iff_mem]
          have whole : without e.record [] = e.record := List.filter_eq_self.mpr fun _ _ => rfl
          have refilled := run_refill e.schema e.mode value new he e.schema.propertyNames [] hs
          have emptied : select ((property, value) :: e.record) [] = [] := rfl
          rw [whole, emptied, List.nil_append] at refilled
          simpa [hp, hok, hc, replaced, Fields.insertInOrder] using refilled
      · simp [hp, hok, replaced]

theorem run_unsetInPlace (e : Entity) (property : String) :
    (unsetInPlace property).run e = e.replaced (e.unset property) := by
  rw [unset_eq, unsetInPlace]
  cases hp : e.schema.property? property with
  | none => simp [hp, replaced]
  | some p => by_cases ho : p.isOptional = true <;> simp [hp, ho, replaced]

end Entity

namespace Change

/-- The call in place. -/
def inPlace (registry : Registry) : Change → InPlace
  | .set property value => Entity.setInPlace registry property value
  | @setAs _ _ property value => do
    let e ← get
    match Codec.encode value with
    | .error cause => throw (.notEncoded e.schema.name property cause)
    | .ok v => Entity.setInPlace registry property v
  | .unset property => Entity.unsetInPlace property
  | .setOptional property (some value) => Entity.setInPlace registry property value
  | .setOptional property none => Entity.unsetInPlace property

/-- What the call does to a record, if its value has a record form. -/
def edit : Change → Except EncodeError Edit
  | .set property value => .ok ⟨property, some value⟩
  | @setAs _ _ property value => (Codec.encode value).map fun v => ⟨property, some v⟩
  | .unset property => .ok ⟨property, none⟩
  | .setOptional property value => .ok ⟨property, value⟩

variable {registry : Registry} {e f : Entity} {c : Change}

/-- **A call in place comes to what the call comes to**, and when it fails it has written nothing. -/
theorem run_inPlace (registry : Registry) (hs : e.schema.propertyNames.Nodup)
    (he : Fields.Nodup e.record) (c : Change) :
    (c.inPlace registry).run e = e.replaced (c.apply registry e) := by
  cases c with
  | set property value => exact Entity.run_setInPlace registry property value hs he
  | @setAs α _ property value =>
      cases hv : Codec.encode value with
      | error cause => simp [inPlace, apply, Entity.setAs, hv, Entity.replaced]
      | ok v => simpa [inPlace, apply, Entity.setAs, hv] using
          Entity.run_setInPlace registry property v hs he
  | unset property => exact Entity.run_unsetInPlace e property
  | setOptional property value =>
      cases value with
      | none => exact Entity.run_unsetInPlace e property
      | some v => exact Entity.run_setInPlace registry property v hs he

/-- A call that succeeds edits a declared property. -/
theorem edited_of_apply (h : c.apply registry e = .ok f) :
    ∃ w, c.edit = .ok w ∧ w.property ∈ e.schema.propertyNames
      ∧ f = { e with record := w.on e.schema.propertyNames e.record } := by
  have set {property : String} {value : Json} (h : e.set registry property value = .ok f) :
      property ∈ e.schema.propertyNames ∧ f = { e with
        record := Fields.insertInOrder e.schema.propertyNames e.record property value } := by
    obtain ⟨p, hp, -, hf⟩ := Entity.set_eq_ok_iff.mp h
    exact ⟨Schema.mem_propertyNames_of_property? hp, hf⟩
  have unset {property : String} (h : e.unset property = .ok f) :
      property ∈ e.schema.propertyNames
        ∧ f = { e with record := Fields.erase e.record property } := by
    obtain ⟨p, hp, -, hf⟩ := Entity.unset_eq_ok_iff.mp h
    exact ⟨Schema.mem_propertyNames_of_property? hp, hf⟩
  cases c with
  | set property value => exact ⟨_, rfl, set h⟩
  | @setAs α _ property value =>
      cases hv : Codec.encode value with
      | error cause => simp [apply, Entity.setAs, hv] at h
      | ok v =>
          simp only [apply, Entity.setAs, hv] at h
          exact ⟨⟨property, some v⟩, by rw [edit, hv]; rfl, set h⟩
  | unset property => exact ⟨_, rfl, unset h⟩
  | setOptional property value =>
      cases value with
      | none => exact ⟨_, rfl, unset h⟩
      | some v => exact ⟨_, rfl, set h⟩

end Change

/-! ### What is left alone -/

/-- The edit has touched its own property and nothing else. -/
structure Edit.Leaves (w : Edit) (e f : Entity) : Prop where
  schema_eq : f.schema = e.schema
  mode_eq : f.mode = e.mode
  /-- The property has its value, or is gone. -/
  own : f.get? w.property = w.value?
  /-- Every other key has the value it had. -/
  others : ∀ key, key ≠ w.property → f.get? key = e.get? key
  /-- No other key has come or gone. -/
  mem_keys_iff : ∀ key, key ≠ w.property → (key ∈ keys f.record ↔ key ∈ keys e.record)
  /-- Every key is there once. -/
  nodup : Fields.Nodup f.record
  /-- Around a property that is left out, the keys stay in order. -/
  keys_eq : w.value? = none → keys f.record = (keys e.record).filter (· ≠ w.property)

/-- **An edit touches its own property and nothing else.** -/
theorem Edit.leaves {w : Edit} {e : Entity} (hs : e.schema.propertyNames.Nodup)
    (he : Fields.Nodup e.record) (hw : w.property ∈ e.schema.propertyNames) :
    w.Leaves e { e with record := w.on e.schema.propertyNames e.record } where
  schema_eq := rfl
  mode_eq := rfl
  own := by rw [Entity.get?, find?_on hw, if_pos rfl]
  others key hk := by rw [Entity.get?, find?_on hw, if_neg hk.symm, Entity.get?]
  mem_keys_iff key hk := by
    rw [Fields.mem_keys_iff, Fields.mem_keys_iff, find?_on hw, if_neg hk.symm]
  nodup := nodup_on hs he w
  keys_eq hn := by rw [keys_on hw, names, hn]

/-- **A call that fails leaves the entity as it was, and one that succeeds changes only the property
that it names.**  Whatever the keys of an entity of a declared schema and whatever their order, a call
in place comes to the same as on a copy; failing, it leaves the record, with its order of keys, the
schema and the mode; and succeeding, it gives the property its value, or leaves it out, and every
other key, declared or not, is there once with the value it had. -/
theorem calls_frame {serial : Nat} {name : String} {properties : List Property} {e : Entity}
    (hs : Schema.declare serial name properties = .ok e.schema) (he : Fields.Nodup e.record)
    (registry : Registry) (c : Change) :
    (c.inPlace registry).run e = e.replaced (c.apply registry e)
    ∧ (∀ error after, (c.inPlace registry).run e = .error error after → after = e)
    ∧ ∀ f, c.apply registry e = .ok f → ∃ w, c.edit = .ok w ∧ w.Leaves e f := by
  have names := Schema.nodup_of_declare hs
  have run := Change.run_inPlace registry names he c
  refine ⟨run, fun error after h => ?_, fun f hf => ?_⟩
  · rw [run] at h
    cases hc : c.apply registry e with
    | ok f =>
        rw [hc] at h
        cases h
    | error cause =>
        rw [hc] at h
        cases h
        rfl
  · obtain ⟨w, edit, declared, rfl⟩ := Change.edited_of_apply hf
    exact ⟨w, edit, Edit.leaves names he declared⟩

/-- The tree has a key that is not declared before the two that are, and no note.  A number for its
label is refused; a note is put between the declared keys and the other one, which keeps its value. -/
theorem calls_frame_marked :
    let registry := (Registry.empty.register Schema.tree).2
    let label : Change := .set "label" .zero
    let note : Change := .setAs "note" "n"
    Schema.declare 0 "Tree" Schema.tree.properties = .ok Entity.marked.schema
      ∧ Fields.Nodup Entity.marked.record
      ∧ (∃ error, (label.inPlace registry).run Entity.marked = .error error Entity.marked)
      ∧ ∃ f, (note.inPlace registry).run Entity.marked = .ok () f
        ∧ keys f.record = ["label", "child", "note", "mark"]
        ∧ f.get? "note" = some (.str "n") ∧ f.get? "mark" = Entity.marked.get? "mark" := by
  intro registry label note
  have hs : Schema.declare 0 "Tree" Schema.tree.properties = .ok Entity.marked.schema := rfl
  have he : Fields.Nodup Entity.marked.record := by
    simp [Entity.marked, Entity.tree, Fields.Nodup, Fields.keys]
  obtain ⟨refused, -, -⟩ := calls_frame hs he registry label
  obtain ⟨taken, -, left⟩ := calls_frame hs he registry note
  obtain ⟨w, edit, leaves⟩ := left _ rfl
  cases edit
  exact ⟨hs, he, ⟨_, refused⟩, _, taken, rfl, leaves.own, leaves.others "mark" (by decide)⟩

end Dossier
