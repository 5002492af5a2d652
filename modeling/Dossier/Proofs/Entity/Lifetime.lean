import Dossier.Proofs.Entity.Change
import Dossier.Proofs.Schema.Declaration

/-!
# Entity — validity over a lifetime

An entity is *valid* when its record is one of its schema in its own mode.  A session is what a
program holds while it runs: the registry, which grows, and the entities that are alive.  Its
commands change an entity, hand one over to be set, copy one, or register a schema; a command that
names no living entity does nothing.

* `Entity.Changed.valid`: a call keeps an entity valid, although it looks at one property only.  The
  other properties are read as before (`Fields.find?_insertInOrder`, `Fields.find?_erase`), and a
  declared schema has no second property of the name.
* `Session.All.step`, `Session.All.run`: what its call keeps of an entity, and a growing registry too,
  a command keeps of all living entities, and so does every sequence of commands.  What every call keeps
  is *lasting*; validity is such a thing (`Session.lasting_valid`).
* `lifetime_valid`: from an entity that was made of a declared schema, every entity that is alive
  after any commands is valid.
-/

namespace Dossier

/-! ### The record after a call -/

namespace Fields

variable {α : Type}

theorem mem_keys_iff (t : Fields α) (name : String) : name ∈ keys t ↔ find? t name ≠ none := by
  rw [ne_eq, find?_eq_none_iff, Classical.not_not]

/-- A write in order adds no name but its own. -/
theorem mem_keys_of_insertInOrder {order : List String} {t : Fields α} {name : String} {value : α}
    (h : name ∈ order) {other : String}
    (ho : other ∈ keys (insertInOrder order t name value)) : other = name ∨ other ∈ keys t := by
  rw [mem_keys_iff, find?_insertInOrder t value h] at ho
  by_cases hn : name = other
  · exact .inl hn.symm
  · rw [if_neg hn] at ho
    exact .inr ((mem_keys_iff t other).mpr ho)

end Fields

namespace Schema

variable {registry : Registry} {mode : Mode} {s : Schema} {fields : Fields Json}

/-- A record stays one when a declared property is written with a value that it takes. -/
theorem accepts_insertInOrder (hs : s.propertyNames.Nodup) {name : String} {p : Property}
    {value : Json} (hp : s.property? name = some p) (hv : p.fits registry mode value = true)
    (h : s.accepts registry mode (.obj fields) = true) :
    s.accepts registry mode (.obj (Fields.insertInOrder s.propertyNames fields name value))
      = true := by
  obtain ⟨hk, hh⟩ := accepts_obj_iff.mp h
  obtain ⟨hm, rfl⟩ := (property?_eq_some_iff hs).mp hp
  have hn : p.name ∈ s.propertyNames := mem_propertyNames.mpr ⟨p, hm, rfl⟩
  refine accepts_obj_iff.mpr ⟨?_, fun q hq => ?_⟩
  · refine keysPass_iff.mpr fun hd key hkey => ?_
    rcases Fields.mem_keys_of_insertInOrder hn hkey with rfl | hold
    · exact declares_iff.mpr hn
    · exact keysPass_iff.mp hk hd key hold
  · rw [Fields.find?_insertInOrder fields value hn]
    by_cases he : p.name = q.name
    · -- another property of the name would be checked against the new value unseen
      obtain rfl : q = p := Option.some.inj
        (((property?_eq_some_iff hs).mpr ⟨hq, he.symm⟩).symm.trans hp)
      rw [if_pos rfl]
      exact hv
    · rw [if_neg he]
      exact hh q hq

/-- A record stays one when an optional property is left out. -/
theorem accepts_erase (hs : s.propertyNames.Nodup) {name : String} {p : Property}
    (hp : s.property? name = some p) (ho : p.isOptional = true)
    (h : s.accepts registry mode (.obj fields) = true) :
    s.accepts registry mode (.obj (Fields.erase fields name)) = true := by
  obtain ⟨hk, hh⟩ := accepts_obj_iff.mp h
  refine accepts_obj_iff.mpr ⟨?_, fun q hq => ?_⟩
  · refine keysPass_iff.mpr fun hd key hkey => keysPass_iff.mp hk hd key ?_
    exact (List.filter_sublist.map Prod.fst).subset hkey
  · rw [Fields.find?_erase]
    -- only the property itself finds nothing now
    by_cases he : name = q.name
    · obtain rfl : q = p := Option.some.inj
        (((property?_eq_some_iff hs).mpr ⟨hq, he.symm⟩).symm.trans hp)
      rw [if_pos he]
      exact ho
    · rw [if_neg he]
      exact hh q hq

end Schema

/-! ### The entity after a call -/

namespace Entity

/-- The record is one of the entity's schema, in the entity's own mode. -/
def Valid (registry : Registry) (e : Entity) : Prop :=
  e.schema.accepts registry e.mode e.dto = true

theorem Valid.extends {r r' : Registry} (h : r.Extends r') {e : Entity} (he : e.Valid r) :
    e.Valid r' :=
  Schema.accepts_of_extends h he

variable {registry : Registry} {e e' : Entity}

theorem Changed.schema_eq (h : e.Changed registry e') : e'.schema = e.schema := by
  cases h <;> rfl

theorem Changed.mode_eq (h : e.Changed registry e') : e'.mode = e.mode := by
  cases h <;> rfl

/-- **A call keeps an entity valid.** -/
theorem Changed.valid (hs : e.schema.propertyNames.Nodup) (h : e.Changed registry e')
    (he : e.Valid registry) : e'.Valid registry := by
  cases h with
  | written declared fits => exact Schema.accepts_insertInOrder hs declared fits he
  | erased declared optional => exact Schema.accepts_erase hs declared optional he

/-- How an entity comes to be: from a record, from sources folded over the default record, or with
the default record where that is valid. -/
inductive Made (registry : Registry) (schema : Schema) (mode : Mode) : Entity → Prop where
  | ofDto {dto : Json} {e : Entity} (h : Entity.ofDto registry schema dto mode = .ok e) :
      Made registry schema mode e
  | merge {sources : List Candidate} {e : Entity}
      (h : Entity.merge registry schema sources mode = .ok e) : Made registry schema mode e
  | create (h : schema.accepts registry mode (schema.defaultRecord registry) = true) :
      Made registry schema mode (Entity.create registry schema mode)

variable {schema : Schema} {mode : Mode}

/-- An entity is made from a record exactly when that is one of the schema, and then holds it. -/
theorem ofDto_eq_ok_iff {dto : Json} :
    Entity.ofDto registry schema dto mode = .ok e ↔
      schema.accepts registry mode dto = true
        ∧ e.schema = schema ∧ e.mode = mode ∧ e.dto = dto := by
  obtain ⟨t, record, m⟩ := e
  cases dto with
  | obj fields =>
      simp only [Entity.ofDto, Schema.accepts, dto, Json.obj.injEq]
      split
      · next h => simp [h, eq_comm, and_comm]
      · next h => simp [h]
  | _ => simp [Entity.ofDto, Schema.accepts]

theorem Made.sound (h : Made registry schema mode e) :
    e.schema = schema ∧ e.mode = mode ∧ e.Valid registry := by
  have ofDto {dto : Json} {e : Entity} (h : Entity.ofDto registry schema dto mode = .ok e) :
      e.schema = schema ∧ e.mode = mode ∧ e.Valid registry := by
    obtain ⟨ha, rfl, rfl, rfl⟩ := ofDto_eq_ok_iff.mp h
    exact ⟨rfl, rfl, ha⟩
  cases h with
  | ofDto h => exact ofDto h
  | merge h => exact ofDto h
  | create h => exact ⟨rfl, rfl, h⟩

end Entity

/-! ### Sessions -/

/-- What a program holds: the registry, and the entities that are alive. -/
structure Session where
  registry : Registry
  entities : List Entity

/-- What a program does to what it holds.  An entity is named by its place. -/
inductive Command : Type 1 where
  | change (place : Nat) (c : Change)
  /-- Hands an entity over to be set; when that fails the entity is gone. -/
  | handOver (place : Nat) (property : String) (value : Json)
  | copy (place : Nat)
  | register (schema : Schema)

/-- The call that a command makes of an entity, if it makes one. -/
def Command.call? : Command → Option Change
  | .change _ c => some c
  | .handOver _ property value => some (.set property value)
  | .copy _ | .register _ => none

namespace Session

def step (s : Session) : Command → Session
  | .change place c =>
    match s.entities[place]? with
    | some e => { s with entities := s.entities.set place (c.after s.registry e) }
    | none => s
  | .handOver place property value =>
    match s.entities[place]? with
    | some e =>
      match e.set s.registry property value with
      | .ok changed => { s with entities := s.entities.set place changed }
      | .error _ => { s with entities := s.entities.eraseIdx place }
    | none => s
  | .copy place =>
    match s.entities[place]? with
    | some e => { s with entities := s.entities ++ [e] }
    | none => s
  | .register schema => { s with registry := (s.registry.register schema).2 }

/-- The session after some commands. -/
def run (s : Session) (commands : List Command) : Session := commands.foldl step s

/-- Every living entity has the property, in the registry as it is. -/
def All (P : Registry → Entity → Prop) (s : Session) : Prop := ∀ e ∈ s.entities, P s.registry e

/-- What an entity keeps when it is changed, and when the registry grows. -/
structure Lasting (P : Registry → Entity → Prop) : Prop where
  changed {registry : Registry} {e e' : Entity} (hc : e.Changed registry e')
    (h : P registry e) : P registry e'
  grown {r r' : Registry} (hr : r.Extends r') {e : Entity} (h : P r e) : P r' e

variable {P : Registry → Entity → Prop} {s : Session}

/-- A living entity may be replaced by one that has the property too. -/
theorem All.set (h : s.All P) (place : Nat) {e : Entity} (he : P s.registry e) :
    All P { s with entities := s.entities.set place e } := by
  intro f hf
  rcases List.mem_or_eq_of_mem_set hf with hf | rfl
  · exact h f hf
  · exact he

/-- A command keeps of all living entities what its call keeps of each, and a growing registry too. -/
theorem All.step (h : s.All P) (c : Command)
    (called : ∀ call ∈ c.call?, ∀ {e f : Entity}, call.apply s.registry e = .ok f →
      P s.registry e → P s.registry f)
    (grown : ∀ {r : Registry}, s.registry.Extends r → ∀ {e : Entity}, P s.registry e → P r e) :
    (s.step c).All P := by
  cases c with
  | change place c =>
      simp only [Session.step]
      split
      · next e he =>
        have held : P s.registry e := h e (List.mem_of_getElem? he)
        simp only [Change.after]
        split
        · next hc => exact h.set place (called c rfl hc held)
        -- the call fails: the entity is put back as it was
        · exact h.set place held
      · exact h
  | handOver place property value =>
      simp only [Session.step]
      split
      · next e he =>
        have held : P s.registry e := h e (List.mem_of_getElem? he)
        split
        · next hc => exact h.set place (called (.set property value) rfl hc held)
        -- the call fails: the entity is gone
        · exact fun f hf => h f (List.mem_of_mem_eraseIdx hf)
      · exact h
  | copy place =>
      simp only [Session.step]
      split
      · next e he =>
        intro f hf
        rcases List.mem_append.mp hf with hf | hf
        · exact h f hf
        · obtain rfl := List.mem_singleton.mp hf
          exact h f (List.mem_of_getElem? he)
      · exact h
  | register t => exact fun e he => grown (s.registry.extends_register t) (h e he)

/-- So does every sequence of commands. -/
theorem All.run (h : s.All P) (commands : List Command)
    (called : ∀ c ∈ commands, ∀ call ∈ c.call?, ∀ {registry : Registry} {e f : Entity},
      call.apply registry e = .ok f → P registry e → P registry f)
    (grown : ∀ {r r' : Registry}, r.Extends r' → ∀ {e : Entity}, P r e → P r' e) :
    (s.run commands).All P := by
  induction commands generalizing s with
  | nil => exact h
  | cons c rest ih =>
      have next := h.step c (fun call hc => called c (List.mem_cons_self ..) call hc) grown
      exact ih next fun d hd => called d (List.mem_cons_of_mem _ hd)

/-- What every call keeps, every sequence of commands keeps. -/
theorem Lasting.run (hp : Lasting P) (commands : List Command) (h : s.All P) :
    (s.run commands).All P :=
  h.run commands (fun _ _ _ _ _ _ _ hc => hp.changed (Change.changed hc)) hp.grown

/-- What lasts of an entity lasts of all that comes of it. -/
theorem Lasting.run_single (hp : Lasting P) (commands : List Command) {registry : Registry}
    {e : Entity} (h : P registry e) : (Session.run ⟨registry, [e]⟩ commands).All P :=
  hp.run commands (List.forall_mem_singleton.mpr h)

/-- Every living entity is of the schema and the mode, and valid. -/
def Sound (schema : Schema) (mode : Mode) (s : Session) : Prop :=
  ∀ e ∈ s.entities, e.schema = schema ∧ e.mode = mode ∧ e.Valid s.registry

theorem lasting_valid {schema : Schema} (hn : schema.propertyNames.Nodup) (mode : Mode) :
    Lasting fun registry e => e.schema = schema ∧ e.mode = mode ∧ e.Valid registry where
  changed hc h := by
    obtain ⟨hs, hm, hv⟩ := h
    exact ⟨hc.schema_eq.trans hs, hc.mode_eq.trans hm, hc.valid (hs ▸ hn) hv⟩
  grown hr _ h := ⟨h.1, h.2.1, h.2.2.extends hr⟩

/-- From a valid entity on, living entities are valid. -/
theorem sound_run {registry : Registry} {e : Entity} (hn : e.schema.propertyNames.Nodup)
    (he : e.Valid registry) (commands : List Command) :
    (Session.run ⟨registry, [e]⟩ commands).Sound e.schema e.mode :=
  (lasting_valid hn e.mode).run_single commands ⟨rfl, rfl, he⟩

end Session

/-- **Validity over a lifetime.**  From an entity that was made of a declared schema, whatever the
commands, after each of them every living entity has that schema and its mode, and its record is one
of the schema in that mode, in the registry as it then is. -/
theorem lifetime_valid {serial : Nat} {name : String} {properties : List Property} {schema : Schema}
    (hs : Schema.declare serial name properties = .ok schema) {registry : Registry} {mode : Mode}
    {e : Entity} (he : Entity.Made registry schema mode e) (commands : List Command) (n : Nat) :
    ∀ f ∈ (Session.run ⟨registry, [e]⟩ (commands.take n)).entities,
      f.schema = schema ∧ f.mode = mode ∧
        schema.accepts (Session.run ⟨registry, [e]⟩ (commands.take n)).registry mode f.dto
          = true := by
  obtain ⟨rfl, rfl, valid⟩ := he.sound
  intro f hf
  obtain ⟨same, mode_eq, hv⟩ :=
    Session.sound_run (Schema.nodup_of_declare hs) valid (commands.take n) f hf
  exact ⟨same, mode_eq, by rwa [Entity.Valid, same, mode_eq] at hv⟩

/-- A tree whose child, if it has one, is a registered tree again. -/
def Schema.tree : Schema :=
  .mk 0 "Tree" [.mk "label" [.string] false, .mk "child" [.reference "Tree", .null] false,
    .mk "note" [.string, .absent] false]

/-- A tree with a child. -/
def Entity.tree : Entity :=
  ⟨Schema.tree, [("child", .obj [("label", .str "b"), ("child", .null)]), ("label", .str "a")],
    .development⟩

/-- A note is set, a copy is handed over for a number as its label and is lost, another schema is
registered, and the note is unset. -/
def Command.onTree : List Command :=
  [.change 0 (.set "note" (.str "n")), .copy 0, .handOver 1 "label" .zero,
    .register (.mk 1 "Leaf" []), .change 0 (.setOptional "note" none)]

theorem lifetime_valid_tree :
    Schema.declare 0 "Tree" Schema.tree.properties = .ok Schema.tree ∧
      Entity.Made (Registry.empty.register Schema.tree).2 Schema.tree .development Entity.tree ∧
      ∀ f ∈ (Session.run ⟨(Registry.empty.register Schema.tree).2, [Entity.tree]⟩
          (Command.onTree.take 5)).entities,
        f.schema = Schema.tree ∧ f.mode = .development ∧
          Schema.tree.accepts (Session.run ⟨(Registry.empty.register Schema.tree).2, [Entity.tree]⟩
            (Command.onTree.take 5)).registry .development f.dto = true := by
  have hs : Schema.declare 0 "Tree" Schema.tree.properties = .ok Schema.tree := rfl
  have he : Entity.Made (Registry.empty.register Schema.tree).2 Schema.tree .development
      Entity.tree :=
    .ofDto (Entity.ofDto_eq_ok_iff.mpr ⟨by decide, rfl, rfl, rfl⟩)
  exact ⟨hs, he, lifetime_valid hs he Command.onTree 5⟩

end Dossier
