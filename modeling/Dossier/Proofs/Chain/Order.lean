import Dossier.Proofs.Chain.Collection
import Dossier.Proofs.Chain.Descent
import Dossier.Proofs.Chain.Local

/-!
# Chain — the order of a pool

A member comes to the same record wherever it stands in its pool, and what it comes to is not
changed by the members that were resolved before it.  How many levels it takes is: an ancestor that
is remembered takes none.  So the order of the pool can decide whether a level is found for every
ancestor, and nothing else.

* `Resolver.Comes.of_get?`: what a record comes to depends on what is found under the names alone.
* `Resolver.find?_collected`: a collection has each member's name with what its record comes to.
* `Resolver.Run.tooDeep_of_ancestry`: with the pool alone, a record that comes to something fails
  for want of levels or not at all.
* `resolveCollection_perm`: so pools of the same members in another order come to the same records,
  or one of them fails for want of levels, which is not where there are as many levels as members;
  `resolveCollection_stairs` is a pool of which one order fails so and another does not.
-/

namespace Dossier

variable {U : Type} [Urls U]

/-- The order of a pool's members makes no difference to what is found under a name. -/
theorem Pool.get?_of_perm {p q : Pool} (h : p.records.Perm q.records) (name : String) :
    p.get? name = q.get? name := by
  cases hp : p.get? name with
  | some record => exact (Fields.find?_of_mem q.nodup (h.mem_iff.mp (Fields.mem_of_find? hp))).symm
  | none =>
      cases hq : q.get? name with
      | none => rfl
      | some record =>
          have found := Fields.find?_of_mem p.nodup (h.mem_iff.mpr (Fields.mem_of_find? hq))
          cases hp.symm.trans found

theorem Pool.size_of_perm {p q : Pool} (h : p.records.Perm q.records) : p.size = q.size :=
  h.length_eq

namespace Resolver

variable {r : Resolver U} {p q pool : Pool} {levels : Nat} {chain : List (Place U)}
  {base innerBase : Option U} {record inner root result : Fields Json}
  {children : List (Fields Json)} {reference requester : String} {pass after : Pass U}
  {place : Place U}

/-! ### What a record comes to -/

theorem Leads.of_get? (h : r.Leads p base record innerBase inner)
    (same : ∀ name, p.get? name = q.get? name) : r.Leads q base record innerBase inner := by
  cases h with
  | member refers found => exact .member refers ((same _).symm.trans found)
  | document refers outside unlisted looks located reads =>
      exact .document refers ((same _).symm.trans outside) unlisted looks located reads

theorem Ancestry.of_get? (h : r.Ancestry p base record root children)
    (same : ∀ name, p.get? name = q.get? name) : r.Ancestry q base record root children := by
  induction h with
  | plain refers => exact .plain refers
  | builtIn refers outside listed => exact .builtIn refers ((same _).symm.trans outside) listed
  | child leads ancestry ih => exact .child (leads.of_get? same) ih

/-- What a record comes to depends on what is found under the names alone. -/
theorem Comes.of_get? (h : r.Comes p base record result)
    (same : ∀ name, p.get? name = q.get? name) : r.Comes q base record result := by
  obtain ⟨root, children, ancestry, rfl⟩ := h
  exact ⟨root, children, ancestry.of_get? same, rfl⟩

/-- The value is what the record of a member comes to. -/
def Yields (r : Resolver U) (pool : Pool) (name : String) (v : Json) : Prop :=
  ∃ record result, pool.get? name = some record ∧ r.Comes pool r.options.baseUrl record result
    ∧ v = .obj result

theorem Yields.unique {name : String} {v w : Json} (h : r.Yields pool name v)
    (h' : r.Yields pool name w) : v = w := by
  obtain ⟨record, result, found, comes, rfl⟩ := h
  obtain ⟨record', result', found', comes', rfl⟩ := h'
  cases found.symm.trans found'
  rw [comes.unique comes']

theorem Yields.of_get? {name : String} {v : Json} (h : r.Yields p name v)
    (same : ∀ name, p.get? name = q.get? name) : r.Yields q name v := by
  obtain ⟨record, result, found, comes, rfl⟩ := h
  exact ⟨record, result, (same _).symm.trans found, comes.of_get? same, rfl⟩

/-! ### Collections -/

/-- Members that are resolved one after the other come to what they come to on their own. -/
theorem Row.yields {records : List (String × Fields Json)}
    {outcome : Except ResolveError (List Json)} (row : r.Row pool records pass outcome after)
    (hs : r.Steady) (hf : ∀ remote, r.remote = some remote → r.Faithful)
    (hm : ∀ e ∈ records, pool.get? e.1 = some e.2) (h : Pass.Sound r pool pass)
    {results : List Json} (ho : outcome = .ok results) :
    List.Forall₂ (r.Yields pool) (Fields.keys records) results := by
  induction row generalizing results with
  | nil =>
      cases ho
      exact .nil
  | stopped | failed => cases ho
  | cons turn row ih =>
      cases ho
      have found := hm _ (List.mem_cons_self ..)
      obtain ⟨comes, sound⟩ := turn.comes hs hf h found rfl
      exact .cons ⟨_, _, found, comes, rfl⟩
        (ih (fun e he => hm e (List.mem_cons_of_mem _ he)) sound rfl)

/-- With the pool alone, the members of a collection come to its results. -/
theorem yields_collected (alone : r.remote = none) {results : List Json}
    (h : (r.resolveCollection pool).1 = .ok results) :
    List.Forall₂ (r.Yields pool) pool.names results :=
  (row_resolveEach r pool pool.records .start).yields (fun _ hr => nomatch alone.symm.trans hr)
    (fun _ hr => nomatch alone.symm.trans hr) (fun _ he => Fields.find?_of_mem pool.nodup he)
    (Pass.sound_start r pool) h

theorem find?_zip {R : String → Json → Prop} {names : List String} {values : List Json}
    (h : List.Forall₂ R names values) (unique : ∀ name v w, R name v → R name w → v = w)
    (name : String) (v : Json) :
    Fields.find? (names.zip values) name = some v ↔ name ∈ names ∧ R name v := by
  induction h with
  | nil => simp
  | @cons first value names values related others ih =>
      rw [List.zip_cons_cons, Fields.find?, List.mem_cons]
      by_cases hn : first = name
      · subst hn
        rw [if_pos rfl]
        constructor
        · rintro ⟨⟩
          exact ⟨.inl rfl, related⟩
        · exact fun h => congrArg some (unique _ _ _ related h.2)
      · rw [if_neg hn, ih]
        simp [Ne.symm hn]

/-- **A collection has each member's name with what its record comes to.** -/
theorem find?_collected (alone : r.remote = none) {results : List Json}
    (h : (r.resolveCollection pool).1 = .ok results) (name : String) (v : Json) :
    Fields.find? (pool.names.zip results) name = some v ↔ r.Yields pool name v := by
  refine (find?_zip (yields_collected alone h) (fun _ _ _ h h' => h.unique h') name v).trans
    ⟨And.right, fun yields => ⟨?_, yields⟩⟩
  obtain ⟨record, result, found, -⟩ := yields
  exact (Fields.contains_iff_mem ..).mp (Pool.contains_of_get? found)

/-! ### Failures -/

/-- With the pool alone, a place that a record refers to is the next of its ancestry. -/
theorem Ancestry.step (h : r.Ancestry pool base record root children) (alone : r.remote = none)
    (refers : r.options.layout.extendOf? record = some reference)
    (aims : r.Aims pool pass base reference requester (.ok (.place place))) :
    ∃ inner others, place = .member reference inner ∧ pool.get? reference = some inner
      ∧ r.Ancestry pool r.options.baseUrl inner root others
      ∧ children.length = others.length + 1 := by
  cases aims with
  | document foreign looks reaches => cases alone.symm.trans reaches
  | member new found =>
      cases h with
      | plain refers' => cases refers.symm.trans refers'
      | builtIn refers' outside =>
          cases refers.symm.trans refers'
          cases found.symm.trans outside
      | child leads ancestry =>
          obtain ⟨rfl, rfl⟩ := leads.unique (.member refers found)
          exact ⟨_, _, rfl, found, ancestry, List.length_append⟩

/-- With the pool alone, a reference of a record that comes to something leads somewhere. -/
theorem Ancestry.not_astray {e : ResolveError} (h : r.Ancestry pool base record root children)
    (alone : r.remote = none) (refers : r.options.layout.extendOf? record = some reference) :
    ¬ r.Aims pool pass base reference requester (.error e) := by
  intro aims
  have foreign : r.Foreign pool pass reference := by cases aims <;> assumption
  cases h with
  | plain refers' => cases refers.symm.trans refers'
  | builtIn refers' outside listed =>
      cases refers.symm.trans refers'
      cases listed.symm.trans foreign.unlisted
  | child leads ancestry =>
      cases leads with
      | member refers' found =>
          cases refers.symm.trans refers'
          cases found.symm.trans foreign.outside
      | document refers' outside unlisted looks located reads =>
          obtain ⟨remote, reaches, -⟩ := reads
          cases alone.symm.trans reaches

/-- The place is a member with an ancestry of at least so many children. -/
def Above (r : Resolver U) (pool : Pool) (least : Nat) (place : Place U) : Prop :=
  ∃ name inner root children, place = .member name inner ∧ pool.get? name = some inner
    ∧ r.Ancestry pool r.options.baseUrl inner root children ∧ least ≤ children.length

/-- **With the pool alone, a record that comes to something fails for want of levels** or not at
all. -/
theorem Run.tooDeep_of_ancestry {outcome : Except ResolveError (Fields Json)}
    (run : r.Run pool levels chain base record pass outcome after) (alone : r.remote = none)
    {e : ResolveError} (he : outcome = .error e) (h : r.Ancestry pool base record root children)
    (above : ∀ place ∈ chain, r.Above pool children.length place) :
    ∃ called asker, e = .tooDeep called asker r.options.maxDepth := by
  induction run generalizing children with
  | plain | known | builtIn | merged => cases he
  | astray refers aims => exact absurd aims (h.not_astray alone refers)
  | cycle refers aims again =>
      -- the member under way would have a longer ancestry than it has
      obtain ⟨inner, others, rfl, found, ancestry, longer⟩ := h.step alone refers aims
      obtain ⟨earlier, he, hk⟩ := List.mem_map.mp again
      obtain ⟨name, inner', root', children', rfl, found', ancestry', least⟩ := above earlier he
      obtain rfl : name = _ := hk
      cases found.symm.trans found'
      obtain ⟨-, rfl⟩ := ancestry.unique ancestry'
      omega
  | tooDeep refers aims new =>
      cases he
      exact ⟨_, _, rfl⟩
  | unopened refers aims new opens =>
      obtain ⟨inner, others, rfl, -⟩ := h.step alone refers aims
      cases opens
  | failed refers aims new opens run ih =>
      obtain ⟨inner, others, rfl, found, ancestry, longer⟩ := h.step alone refers aims
      cases opens
      refine ih he ancestry fun place hp => ?_
      rcases List.mem_append.mp hp with hp | hp
      · obtain ⟨name, inner', root', children', hplace, found', ancestry', least⟩ := above place hp
        exact ⟨name, inner', root', children', hplace, found', ancestry', by omega⟩
      · exact ⟨_, _, _, _, List.mem_singleton.mp hp, found, ancestry, Nat.le_refl _⟩

/-- A member that comes to something fails for want of levels or not at all. -/
theorem Call.tooDeep_of_yields {name : String} {v : Json} {e : ResolveError}
    {outcome : Except ResolveError (Fields Json)}
    (call : r.Call pool name record pass outcome after) (alone : r.remote = none)
    (found : pool.get? name = some record) (yields : r.Yields pool name v)
    (he : outcome = .error e) : ∃ called asker, e = .tooDeep called asker r.options.maxDepth := by
  obtain ⟨record', result, found', ⟨root, children, ancestry, -⟩, -⟩ := yields
  cases found.symm.trans found'
  cases call with
  | refused flat =>
      cases he
      exact ⟨name, name, flat ▸ rfl⟩
  | entered deep run =>
      refine run.tooDeep_of_ancestry alone he ancestry fun place hp => ?_
      exact ⟨name, record, root, children, List.mem_singleton.mp hp, found, ancestry, Nat.le_refl _⟩

end Resolver

/-! ### Pools in another order -/

section

variable {o : Options U} {p q : Pool}

/-- Where one order is resolved, another fails for want of levels or not at all. -/
theorem Options.tooDeep_of_perm (h : p.records.Perm q.records) {results : List Json}
    (hp : (o.resolver.resolveCollection p).1 = .ok results) {e : ResolveError}
    (hq : (o.resolver.resolveCollection q).1 = .error e) :
    ∃ called asker, e = .tooDeep called asker o.maxDepth := by
  obtain ⟨name, record, before, hm, call⟩ :=
    (Resolver.row_resolveCollection o.resolver q).exists_failed hq
  -- in the other order the member that fails comes to something
  have inside : name ∈ p.names := List.mem_map.mpr ⟨_, h.mem_iff.mpr hm, rfl⟩
  obtain ⟨i, hi, rfl⟩ := List.mem_iff_getElem.mp inside
  have collected := Resolver.yields_collected rfl hp
  have yields := collected.get hi (collected.length_eq ▸ hi)
  exact call.tooDeep_of_yields rfl (Fields.find?_of_mem q.nodup hm)
    (yields.of_get? (Pool.get?_of_perm h)) rfl

/-- Where there are as many levels as members, a collection is resolved in any order or in none. -/
theorem Options.resolved_of_perm (h : p.records.Perm q.records) (hl : p.size ≤ o.maxDepth)
    {results : List Json} (hp : (o.resolver.resolveCollection p).1 = .ok results) :
    ∃ others, (o.resolver.resolveCollection q).1 = .ok others := by
  cases hq : (o.resolver.resolveCollection q).1 with
  | ok others => exact ⟨others, rfl⟩
  | error e =>
      obtain ⟨called, asker, rfl⟩ := Options.tooDeep_of_perm h hp hq
      obtain ⟨name, record, before, hm, call⟩ :=
        (Resolver.row_resolveCollection o.resolver q).exists_failed hq
      have levels : q.size ≤ o.maxDepth := Pool.size_of_perm h ▸ hl
      exact absurd rfl (call.ne_tooDeep rfl (Fields.find?_of_mem q.nodup hm) levels)

end

/-- **The order of a pool does not matter to what its members come to**: where two orders are
resolved, every name has the same record in both, and where one is resolved, the other fails for
want of levels or not at all.  Where there are as many levels as members, it does not matter to
whether they are resolved either. -/
theorem resolveCollection_perm (o : Options U) (p q : Pool) (h : p.records.Perm q.records) :
    (∀ results others, (o.resolver.resolveCollection p).1 = .ok results →
      (o.resolver.resolveCollection q).1 = .ok others →
      ∀ name, Fields.find? (p.names.zip results) name = Fields.find? (q.names.zip others) name)
    ∧ (∀ results e, (o.resolver.resolveCollection p).1 = .ok results →
      (o.resolver.resolveCollection q).1 = .error e →
      ∃ called asker, e = .tooDeep called asker o.maxDepth)
    ∧ (p.size ≤ o.maxDepth →
      ((∃ results, (o.resolver.resolveCollection p).1 = .ok results)
        ↔ ∃ others, (o.resolver.resolveCollection q).1 = .ok others)) := by
  have same := Pool.get?_of_perm h
  refine ⟨fun results others hp hq name => Option.ext fun v => ?_,
    fun results e hp hq => Options.tooDeep_of_perm h hp hq, fun hl => ?_⟩
  · calc Fields.find? (p.names.zip results) name = some v
        ↔ o.resolver.Yields p name v :=
          Resolver.find?_collected rfl hp name v
      _ ↔ o.resolver.Yields q name v :=
          ⟨fun yields => yields.of_get? same, fun yields => yields.of_get? fun n => (same n).symm⟩
      _ ↔ Fields.find? (q.names.zip others) name = some v :=
          (Resolver.find?_collected rfl hq name v).symm
  · constructor
    · rintro ⟨results, hp⟩
      exact Options.resolved_of_perm h hl hp
    · rintro ⟨others, hq⟩
      exact Options.resolved_of_perm h.symm (Pool.size_of_perm h ▸ hl) hq

/-- Three records, each of which refers to the next. -/
def stairs : Pool where
  records :=
    [("A", [("name", .str "A"), ("extend", .str "B")]),
      ("B", [("name", .str "B"), ("extend", .str "C")]),
      ("C", [("name", .str "C")])]
  nodup := by simp [Fields.Nodup, Fields.keys]

/-- The same records from the last to the first. -/
def stairsBack : Pool where
  records := stairs.records.reverse
  nodup := by simp [stairs, Fields.Nodup, Fields.keys]

theorem stairs_perm : stairs.records.Perm stairsBack.records := (List.reverse_perm _).symm

theorem resolveCollection_perm_stairs :
    let o : Options Url := .standard
    let shallow := o.withMaxDepth 2
    (∃ results others, (o.resolver.resolveCollection stairs).1 = .ok results
      ∧ (o.resolver.resolveCollection stairsBack).1 = .ok others
      ∧ ∀ name, Fields.find? (stairs.names.zip results) name
        = Fields.find? (stairsBack.names.zip others) name)
    ∧ (∃ results e, (shallow.resolver.resolveCollection stairsBack).1 = .ok results
      ∧ (shallow.resolver.resolveCollection stairs).1 = .error e
      ∧ ∃ called asker, e = .tooDeep called asker 2)
    ∧ ∃ others, (o.resolver.resolveCollection stairsBack).1 = .ok others := by
  intro o shallow
  have deep := resolveCollection_perm o stairs stairsBack stairs_perm
  have flat := resolveCollection_perm shallow stairsBack stairs stairs_perm.symm
  refine ⟨⟨_, _, rfl, rfl, deep.1 _ _ rfl rfl⟩, ⟨_, _, rfl, rfl, flat.2.1 _ _ rfl rfl⟩, ?_⟩
  exact (deep.2.2 (by decide)).mp ⟨_, rfl⟩

/-- The last of the records is one level too deep for the first, unless it has been come to
before. -/
theorem resolveCollection_stairs :
    let o : Options Url := Options.standard.withMaxDepth 2
    stairs.records.Perm stairsBack.records
      ∧ (o.resolver.resolveCollection stairs).1 = .error (.tooDeep "C" "B" 2)
      ∧ (o.resolver.resolveCollection stairsBack).1 = .ok
        [.obj [("name", .str "C")], .obj [("name", .str "C")], .obj [("name", .str "C")]] :=
  ⟨stairs_perm, rfl, rfl⟩

end Dossier
