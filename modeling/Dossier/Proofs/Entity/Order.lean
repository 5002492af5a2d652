import Mathlib.Data.List.Induction
import Dossier.Proofs.Entity.Lifetime
import Dossier.Proofs.Entity.Commuting
import Dossier.Proofs.Entity.Folding

/-!
# Entity — the order of the keys

Keys are in the order of the declaration when the declared ones stand first, in that order, and the
others behind them as they stood.

* `Fields.Settled`: that order, which neither a write in order nor a removal disturbs
  (`Fields.Settled.placed`, `Fields.Settled.filter`) and which a new name brings about
  (`Fields.settled_arranged`).
* `Entity.Changed.ordered`, `Session.lasting_ordered`: so calls keep it, and with them every
  sequence of commands.
* `declaration_order`: it holds of all that comes of a default record, and from the first new
  property on of all that comes of any entity.
* `Entity.declaredKeys_merge`, `merge_order`: a merge does not go by it.  It begins with the default
  record, which has no optional properties, and these stand behind it as the sources bring them.
-/

namespace Dossier

open Fields (keys)

/-! ### Names in order -/

namespace Fields

variable {order rest names : List String} {name : String}

/-- The names of the order stand first, in its order, and behind them the rest as it stood. -/
structure Settled (order rest names : List String) : Prop where
  arranged_eq : arranged order names = names
  rest_eq : names.filter (· ∉ order) = rest

namespace Settled

theorem eq (h : Settled order rest names) : names = order.filter (· ∈ names) ++ rest :=
  h.arranged_eq.symm.trans (congrArg (order.filter (· ∈ names) ++ ·) h.rest_eq)

theorem eq_filter (h : Settled order [] names) : names = order.filter (· ∈ names) :=
  h.eq.trans (List.append_nil _)

/-- Names of the order that are all in order leave no rest. -/
theorem of_eq_filter (h : names = order.filter (· ∈ names)) : Settled order [] names := by
  have none : names.filter (· ∉ order) = [] := List.filter_eq_nil_iff.mpr fun name hn => by
    rw [h] at hn
    simpa using (List.mem_filter.mp hn).1
  refine ⟨?_, none⟩
  rw [arranged, none, List.append_nil, ← h]

end Settled

/-- Names that have been arranged are settled. -/
theorem settled_arranged : Settled order (names.filter (· ∉ order)) (arranged order names) where
  arranged_eq := arranged_congr (fun _ => mem_arranged) filter_arranged_rest
  rest_eq := filter_arranged_rest

theorem Settled.placed (h : Settled order rest names) (hn : name ∈ order) :
    Settled order rest (placed order names name) := by
  rw [Fields.placed]
  split
  · exact h
  · have anew : Settled order ((name :: names).filter (· ∉ order))
        (arranged order (name :: names)) := settled_arranged
    rwa [filter_cons_rest hn, h.rest_eq] at anew

/-- A name of the order can be left out. -/
theorem Settled.filter (h : Settled order rest names) (hn : name ∈ order) :
    Settled order rest (names.filter (· ≠ name)) where
  arranged_eq := by rw [← filter_arranged, h.arranged_eq]
  rest_eq := by
    rw [← h.rest_eq, List.filter_filter]
    refine List.filter_congr fun other _ => ?_
    by_cases ho : other ∈ order
    · simp [ho]
    · have ne : other ≠ name := fun he => ho (he ▸ hn)
      simp [ho, ne]

end Fields

namespace Schema

/-- The property is declared before the other. -/
def Precedes (s : Schema) (a b : String) : Prop :=
  s.propertyNames.idxOf a < s.propertyNames.idxOf b

instance (s : Schema) (a b : String) : Decidable (s.Precedes a b) :=
  inferInstanceAs (Decidable (_ < _))

variable {s : Schema} {names : List String}

theorem pairwise_precedes (hs : s.propertyNames.Nodup) : s.propertyNames.Pairwise s.Precedes := by
  refine List.pairwise_iff_getElem.mpr fun i j hi hj h => ?_
  rwa [Precedes, hs.idxOf_getElem, hs.idxOf_getElem]

theorem requiredNames_sublist (s : Schema) : List.Sublist s.requiredNames s.propertyNames :=
  List.filter_sublist.map Property.name

/-- Distinct declared names are in order when each is declared before those behind it. -/
theorem eq_filter_iff (hs : s.propertyNames.Nodup) (hn : names.Nodup)
    (h : names ⊆ s.propertyNames) :
    names = s.propertyNames.filter (· ∈ names) ↔ names.Pairwise s.Precedes := by
  have ordered := (pairwise_precedes hs).filter (· ∈ names)
  constructor
  · intro he
    rwa [← he] at ordered
  · intro hp
    refine List.Perm.eq_of_pairwise ?_ hp ordered ?_
    · intro a b _ _ hab hba
      exact absurd hba (Nat.lt_asymm hab)
    · refine (List.perm_ext_iff_of_nodup hn (hs.filter _)).mpr fun name => ?_
      simpa using fun hm => h hm

/-- The required properties are in order, whatever optional ones are declared between them. -/
theorem pairwise_requiredNames (hs : s.propertyNames.Nodup) : s.requiredNames.Pairwise s.Precedes :=
  (pairwise_precedes hs).sublist s.requiredNames_sublist

end Schema

/-! ### Calls -/

namespace Entity

/-- The entity is of the schema and has its keys in order, the rest behind the declared ones. -/
structure Ordered (schema : Schema) (rest : List String) (e : Entity) : Prop where
  schema_eq : e.schema = schema
  settled : Fields.Settled schema.propertyNames rest (keys e.record)

variable {schema : Schema} {rest : List String} {e e' : Entity}

theorem ordered_create (registry : Registry) (hs : schema.propertyNames.Nodup) (mode : Mode) :
    (create registry schema mode).Ordered schema [] where
  schema_eq := rfl
  settled := by
    have required : keys (create registry schema mode).record = schema.requiredNames :=
      schema.keys_defaultFields registry
    rw [required]
    exact .of_eq_filter ((Schema.eq_filter_iff hs (hs.sublist schema.requiredNames_sublist)
      schema.requiredNames_sublist.subset).mpr (Schema.pairwise_requiredNames hs))

/-- A call keeps the order of the keys. -/
theorem Changed.ordered {registry : Registry} (hc : e.Changed registry e')
    (h : e.Ordered schema rest) : e'.Ordered schema rest := by
  obtain ⟨rfl, h⟩ := h
  refine ⟨hc.schema_eq, ?_⟩
  cases hc with
  | written declared _ =>
      have hn := Schema.mem_propertyNames_of_property? declared
      simp only [Fields.keys_insertInOrder _ _ hn]
      exact h.placed hn
  | erased declared _ =>
      simp only [Fields.keys_erase]
      exact h.filter (Schema.mem_propertyNames_of_property? declared)

end Entity

/-- A call that sets an absent property brings the keys in order. -/
theorem Change.ordered {registry : Registry} {e f : Entity} {c : Change} (hc : c.sets = true)
    (new : c.property ∉ keys e.record) (h : c.apply registry e = .ok f) :
    f.Ordered e.schema ((keys e.record).filter (· ∉ e.schema.propertyNames)) := by
  obtain ⟨schema, record, mode⟩ := e
  rcases verdict registry schema mode c with ⟨error, fails⟩ | ⟨w, named, declared, sets, edits⟩
  · cases (fails record).symm.trans h
  · obtain rfl := Except.ok.inj ((edits record).symm.trans h)
    obtain ⟨property, value?⟩ := w
    obtain ⟨value, rfl⟩ := Option.isSome_iff_exists.mp (sets.trans hc)
    obtain rfl : property = c.property := named
    refine ⟨rfl, ?_⟩
    rw [Edit.keys_on declared, Edit.names, Fields.placed, if_neg new,
      ← Fields.filter_cons_rest declared]
    exact Fields.settled_arranged

/-- What comes of an entity whose keys are in order has them in order. -/
theorem Session.lasting_ordered (schema : Schema) (rest : List String) :
    Lasting fun _ e => e.Ordered schema rest where
  changed hc h := hc.ordered h
  grown _ _ h := h

/-- **The keys keep the order of the declaration.**  Whatever the commands, what comes of the default
record of a declared schema has for its keys the declared properties that are there, in the order of
the declaration.  And once a property that was absent has been set in an entity, whatever its keys
and their order, what comes of that entity has the declared properties that are there first, in that
order, and behind them the keys that are not declared, as they stood. -/
theorem declaration_order {serial : Nat} {name : String} {properties : List Property}
    {schema : Schema} (hs : Schema.declare serial name properties = .ok schema)
    (registry : Registry) (mode : Mode) (commands : List Command) :
    (∀ f ∈ (Session.run ⟨registry, [Entity.create registry schema mode]⟩ commands).entities,
      keys f.record = schema.propertyNames.filter (· ∈ keys f.record))
    ∧ ∀ (e f : Entity) (c : Change), c.sets = true → c.property ∉ keys e.record →
      c.apply registry e = .ok f →
      ∀ g ∈ (Session.run ⟨registry, [f]⟩ commands).entities,
        keys g.record = e.schema.propertyNames.filter (· ∈ keys g.record)
          ++ (keys e.record).filter (· ∉ e.schema.propertyNames) := by
  constructor
  · intro f hf
    have start := Entity.ordered_create registry (Schema.nodup_of_declare hs) mode
    exact ((Session.lasting_ordered schema []).run_single commands start f hf).settled.eq_filter
  · intro e f c hc new h g hg
    have start := Change.ordered hc new h
    exact ((Session.lasting_ordered e.schema _).run_single commands start g hg).settled.eq

/-- The marked tree gets a note, is copied and loses the note again.  The tree that is left has its
two declared keys first and then the mark; the copy has the note between them. -/
theorem declaration_order_marked :
    let registry := (Registry.empty.register Schema.tree).2
    let note : Change := .setAs "note" "n"
    let commands : List Command := [.copy 0, .change 0 (.unset "note")]
    Schema.declare 0 "Tree" Schema.tree.properties = .ok Schema.tree
      ∧ (∀ f ∈ (Session.run ⟨registry, [Entity.create registry Schema.tree .production]⟩
          commands).entities,
        keys f.record = Schema.tree.propertyNames.filter (· ∈ keys f.record))
      ∧ note.sets = true ∧ note.property ∉ keys Entity.marked.record
      ∧ ∃ f, note.apply registry Entity.marked = .ok f
        ∧ (Session.run ⟨registry, [f]⟩ commands).entities.map (fun g => keys g.record)
          = [["label", "child", "mark"], ["label", "child", "note", "mark"]]
        ∧ ∀ g ∈ (Session.run ⟨registry, [f]⟩ commands).entities,
          keys g.record = Schema.tree.propertyNames.filter (· ∈ keys g.record) ++ ["mark"] := by
  intro registry note commands
  have hs : Schema.declare 0 "Tree" Schema.tree.properties = .ok Schema.tree := rfl
  have new : note.property ∉ keys Entity.marked.record := by decide
  obtain ⟨created, changed⟩ := declaration_order hs registry .production commands
  exact ⟨hs, created, rfl, new, _, rfl, rfl, changed Entity.marked _ note rfl new rfl⟩

/-! ### Merging -/

namespace Fields

/-- Names that are kept occur first where they did among all. -/
theorem filter_eraseDups (keep : String → Bool) (names : List String) :
    names.eraseDups.filter keep = (names.filter keep).eraseDups := by
  induction names using List.reverseRecOn with
  | nil => rfl
  | append_singleton front name ih =>
      rw [List.eraseDups_append, List.filter_append, List.filter_append, List.eraseDups_append, ih]
      congr 1
      by_cases hk : keep name <;> by_cases hm : name ∈ front <;> simp [List.removeAll, hk, hm]

end Fields

namespace Schema

/-- The names of the properties that a record may leave out, in order. -/
def optionalNames (s : Schema) : List String :=
  (s.properties.filter Property.isOptional).map Property.name

theorem mem_optionalNames {s : Schema} (hs : s.propertyNames.Nodup) {name : String} :
    name ∈ s.optionalNames ↔ name ∈ s.propertyNames ∧ name ∉ s.requiredNames := by
  simp only [optionalNames, requiredNames, mem_propertyNames, List.mem_map, List.mem_filter]
  constructor
  · rintro ⟨p, ⟨hp, ho⟩, rfl⟩
    refine ⟨⟨p, hp, rfl⟩, ?_⟩
    rintro ⟨q, ⟨hq, hr⟩, he⟩
    obtain rfl : q = p := Option.some.inj (((property?_eq_some_iff hs).mpr ⟨hq, he⟩).symm.trans
      ((property?_eq_some_iff hs).mpr ⟨hp, rfl⟩))
    simp [ho] at hr
  · rintro ⟨⟨p, hp, rfl⟩, hr⟩
    refine ⟨p, ⟨hp, ?_⟩, rfl⟩
    by_contra ho
    exact hr ⟨p, ⟨hp, by simpa using ho⟩, rfl⟩

/-- The optional properties that sources bring, as they first occur in them. -/
def brought (s : Schema) (sources : List Candidate) : List String :=
  ((sources.flatMap fun c => keys (Entity.contribution c)).filter
    (· ∈ s.optionalNames)).eraseDups

end Schema

namespace Entity

/-- The declared keys of the record, as they stand in it. -/
def declaredKeys (e : Entity) : List String := (keys e.record).filter (· ∈ e.schema.propertyNames)

variable {registry : Registry} {schema : Schema} {mode : Mode} {sources : List Candidate}
  {m : Entity}

/-- **A merged record has the required properties first** and then the optional ones, as the sources
bring them. -/
theorem declaredKeys_merge (hs : schema.propertyNames.Nodup)
    (hm : merge registry schema sources mode = .ok m) :
    m.declaredKeys = schema.requiredNames ++ schema.brought sources := by
  obtain ⟨-, rfl⟩ := merge_eq_ok_iff.mp hm
  have required : schema.requiredNames.filter (· ∈ schema.propertyNames) = schema.requiredNames :=
    List.filter_eq_self.mpr fun name hn => by simpa using schema.requiredNames_sublist.subset hn
  have optional (names : List String) :
      (names.removeAll schema.requiredNames).filter (· ∈ schema.propertyNames)
        = names.filter (· ∈ schema.optionalNames) := by
    rw [List.removeAll, List.filter_filter]
    refine List.filter_congr fun name _ => ?_
    simp [Schema.mem_optionalNames hs]
  rw [declaredKeys, keys_folded registry hs, schema.keys_defaultFields, List.eraseDups_append,
    Fields.eraseDups_of_nodup (hs.sublist schema.requiredNames_sublist), List.filter_append,
    required, Fields.filter_eraseDups, optional, Schema.brought]

/-- They are in the order of the declaration exactly when the sources bring the optional ones in
that order and none of these is declared before a required one. -/
theorem declaredKeys_merge_eq_iff (hs : schema.propertyNames.Nodup)
    (hm : merge registry schema sources mode = .ok m) :
    m.declaredKeys = schema.propertyNames.filter (· ∈ m.declaredKeys) ↔
      (schema.brought sources).Pairwise schema.Precedes
        ∧ ∀ r ∈ schema.requiredNames, ∀ o ∈ schema.brought sources, schema.Precedes r o := by
  have distinct : m.declaredKeys.Nodup := by
    obtain ⟨-, rfl⟩ := merge_eq_ok_iff.mp hm
    exact (nodup_folded registry hs sources).filter _
  have declared : m.declaredKeys ⊆ schema.propertyNames := fun name hn => by
    obtain ⟨-, rfl⟩ := merge_eq_ok_iff.mp hm
    simpa using (List.mem_filter.mp hn).2
  rw [Schema.eq_filter_iff hs distinct declared, declaredKeys_merge hs hm, List.pairwise_append]
  exact and_iff_right (Schema.pairwise_requiredNames hs)

end Entity

/-- **Where the keys of a merged record stand.**  For a declared schema, the declared keys of a
merged record are the required properties in the order of the declaration, and then the optional
ones that the sources bring, as they first occur in them.  So they are all in the order of the
declaration, as when the sources bring no optional property, exactly when the optional ones are
brought in that order and each of them is declared after every required property. -/
theorem merge_order {serial : Nat} {name : String} {properties : List Property} {schema : Schema}
    (hs : Schema.declare serial name properties = .ok schema) {registry : Registry} {mode : Mode}
    {sources : List Candidate} {m : Entity}
    (hm : Entity.merge registry schema sources mode = .ok m) :
    m.declaredKeys = schema.requiredNames ++ schema.brought sources
    ∧ (m.declaredKeys = schema.propertyNames.filter (· ∈ m.declaredKeys) ↔
      (schema.brought sources).Pairwise schema.Precedes
        ∧ ∀ r ∈ schema.requiredNames, ∀ o ∈ schema.brought sources, schema.Precedes r o) :=
  have names := Schema.nodup_of_declare hs
  ⟨Entity.declaredKeys_merge names hm, Entity.declaredKeys_merge_eq_iff names hm⟩

/-- The note of the tree is brought behind the mark and comes behind the required properties. -/
theorem merge_order_tree :
    let registry := (Registry.empty.register Schema.tree).2
    Schema.declare 0 "Tree" Schema.tree.properties = .ok Schema.tree
      ∧ Entity.merge registry Schema.tree Candidate.ofTree .production = .ok Entity.annotated
      ∧ Entity.annotated.declaredKeys = ["label", "child"] ++ ["note"]
      ∧ Schema.tree.brought Candidate.ofTree = ["note"]
      ∧ Entity.annotated.declaredKeys
        = Schema.tree.propertyNames.filter (· ∈ Entity.annotated.declaredKeys) := by
  intro registry
  have hs : Schema.declare 0 "Tree" Schema.tree.properties = .ok Schema.tree := rfl
  have hm : Entity.merge registry Schema.tree Candidate.ofTree .production
      = .ok Entity.annotated := rfl
  have brought : Schema.tree.brought Candidate.ofTree = ["note"] := by decide
  obtain ⟨keys_eq, in_order⟩ := merge_order hs hm
  rw [brought] at keys_eq in_order
  exact ⟨hs, hm, keys_eq, brought, in_order.mpr (by decide)⟩

/-- A button with a label, perhaps an icon, and a size. -/
def Schema.button : Schema :=
  .mk 0 "Button" [.mk "label" [.string] false, .mk "icon" [.string, .absent] false,
    .mk "size" [.integer] false]

/-- The icon is declared before the size, and a merged button has it behind. -/
theorem merge_button :
    Schema.declare 0 "Button" Schema.button.properties = .ok Schema.button
      ∧ ∃ m, Entity.merge .empty Schema.button [.json (.obj [("icon", .str "star")])] .development
          = .ok m
        ∧ m.declaredKeys = ["label", "size", "icon"]
        ∧ m.declaredKeys ≠ Schema.button.propertyNames.filter (· ∈ m.declaredKeys) :=
  ⟨rfl, _, rfl, by decide, by decide⟩

end Dossier
