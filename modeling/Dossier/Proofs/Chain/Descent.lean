import Mathlib.Data.List.Perm.Subperm
import Dossier.Proofs.Chain.Calls

/-!
# Chain — how deep a resolution goes

A resolution enters one place inside the other, and once it has left one it enters none any more.
The chains it enters are those on the way down to the innermost of its places, and the documents it
asks for are the documents among these.

* `Resolver.Run.descends`: a run enters the chains of one descent, which has no place twice and no
  more places than there are levels.
* `Resolver.Run.tooDeep_inv`: one that finds no level left has used them all up, and has met one
  place more.
* `Place.length_le_size`: members of a pool that are all different are no more than its members.
* `Resolver.Run.ne_tooDeep`: so with the pool alone, as many levels as members are enough.
-/

namespace Dossier

variable {U : Type}

/-! ### Places -/

namespace Place

/-- The place is a member of the pool. -/
def Local (pool : Pool) : Place U → Prop
  | .member name record => pool.get? name = some record
  | .document _ => False

/-- The documents among the places, in order. -/
def documents (places : List (Place U)) : List U :=
  places.filterMap fun
    | .member _ _ => none
    | .document url => some url

variable {pool : Pool} {places : List (Place U)}

theorem length_documents_le (places : List (Place U)) : (documents places).length ≤ places.length :=
  List.length_filterMap_le ..

theorem key_mem_names [Urls U] {place : Place U} (h : place.Local pool) :
    place.key ∈ pool.names := by
  cases place with
  | member name record =>
      have found : Fields.contains pool.records name = true :=
        Option.isSome_iff_exists.mpr ⟨record, h⟩
      exact (Fields.contains_iff_mem ..).mp found
  | document url => exact h.elim

/-- Members of a pool that are all different are no more than its members. -/
theorem length_le_size [Urls U] (hn : (places.map key).Nodup)
    (h : ∀ place ∈ places, place.Local pool) : places.length ≤ pool.size := by
  have inside : places.map key ⊆ pool.names := by
    intro name hm
    obtain ⟨place, hp, rfl⟩ := List.mem_map.mp hm
    exact key_mem_names (h place hp)
  calc places.length = (places.map key).length := (List.length_map _).symm
    _ ≤ pool.names.length := (hn.subperm inside).length_le
    _ = pool.size := List.length_map _

end Place

/-! ### Descents -/

/-- The chains on the way down from a chain through further places. -/
def descent (chain : List (Place U)) : List (Place U) → List (List (Place U))
  | [] => []
  | place :: rest => (chain ++ [place]) :: descent (chain ++ [place]) rest

section

variable {chain further : List (Place U)}

theorem length_descent : (descent chain further).length = further.length := by
  induction further generalizing chain with
  | nil => rfl
  | cons place rest ih => rw [descent, List.length_cons, List.length_cons, ih]

theorem prefix_of_mem_descent {c : List (Place U)} (h : c ∈ descent chain further) :
    c <+: chain ++ further := by
  induction further generalizing chain with
  | nil => cases h
  | cons place rest ih =>
      rw [List.append_cons]
      rcases List.mem_cons.mp h with rfl | h
      · exact List.prefix_append ..
      · exact ih h

end

namespace Pass

variable (p : Pass U)

@[simp] theorem visits_note_entered (chain : List (Place U)) :
    (p.note (.entered chain)).visits = p.visits ++ [chain] := by
  simp [visits, note]

@[simp] theorem visits_note_requested (url : U) (answer : Except FetchError Json) :
    (p.note (.requested url answer)).visits = p.visits := by
  simp [visits, note]

@[simp] theorem visits_remember [Urls U] (place : Place U) (record : Fields Json) :
    (p.remember place record).visits = p.visits := by
  rw [visits, visits, log_remember]

end Pass

namespace Resolver

variable [Urls U]

variable {r : Resolver U} {pool : Pool} {levels : Nat} {chain further : List (Place U)}
  {base : Option U} {record : Fields Json} {reference requester : String}
  {pass opened after : Pass U} {place : Place U}

/-- A reference leads to the place. -/
def Aimed (r : Resolver U) (pool : Pool) (place : Place U) : Prop :=
  ∃ pass base reference requester, r.Aims pool pass base reference requester (.ok (.place place))

/-- With the pool alone references lead to its members. -/
theorem Aimed.of_alone (h : r.Aimed pool place) (alone : r.remote = none) : place.Local pool := by
  obtain ⟨pass, base, reference, requester, aims⟩ := h
  cases aims with
  | member new found => exact found
  | document foreign looks reaches => cases alone.symm.trans reaches

/-- Opening a place that a reference leads to asks for it if it is a document, and enters
nothing. -/
theorem Aims.log_opened (aims : r.Aims pool pass base reference requester (.ok (.place place)))
    {before : Pass U} {found : Except ResolveError (Fields Json × Option U)}
    (opens : r.opened place reference requester before = (found, opened)) :
    opened.visits = before.visits
      ∧ opened.requests = before.requests ++ Place.documents [place] := by
  cases aims with
  | member new found =>
      cases opens
      exact ⟨rfl, (List.append_nil _).symm⟩
  | document foreign looks reaches located new =>
      rw [opened_document reaches] at opens
      cases opens
      exact ⟨Pass.visits_note_requested .., Pass.requests_note_requested ..⟩

/-- A pass has entered further places below a chain, each inside the one before. -/
structure Descends (r : Resolver U) (pool : Pool) (levels : Nat) (chain : List (Place U))
    (pass after : Pass U) (further : List (Place U)) : Prop where
  visits : after.visits = pass.visits ++ descent chain further
  requests : after.requests = pass.requests ++ Place.documents further
  levels : further.length ≤ levels
  nodup : (chain.map Place.key).Nodup → ((chain ++ further).map Place.key).Nodup
  aimed : ∀ place ∈ further, r.Aimed pool place

theorem Descends.stay : r.Descends pool levels chain pass pass [] where
  visits := (List.append_nil _).symm
  requests := (List.append_nil _).symm
  levels := Nat.zero_le _
  nodup h := by rwa [List.append_nil]
  aimed _ h := nomatch h

theorem nodup_concat (h : (chain.map Place.key).Nodup) (new : place.key ∉ chain.map Place.key) :
    ((chain ++ [place]).map Place.key).Nodup := by
  rw [List.map_append, List.map_singleton]
  exact List.nodup_append.mpr ⟨h, List.pairwise_singleton .., fun a ha b hb =>
    List.mem_singleton.mp hb ▸ fun e => new (e ▸ ha)⟩

/-- Entering a place and going on from there. -/
theorem Descends.enter {found : Except ResolveError (Fields Json × Option U)}
    (aims : r.Aims pool pass base reference requester (.ok (.place place)))
    (new : place.key ∉ chain.map Place.key)
    (opens : r.opened place reference requester (pass.note (.entered (chain ++ [place])))
      = (found, opened))
    (h : r.Descends pool levels (chain ++ [place]) opened after further) :
    r.Descends pool (levels + 1) chain pass after (place :: further) := by
  obtain ⟨visits, requests⟩ := aims.log_opened opens
  constructor
  · rw [h.visits, visits, Pass.visits_note_entered, List.append_assoc]
    rfl
  · rw [h.requests, requests, Pass.requests_note_entered, List.append_assoc]
    exact congrArg _ List.filterMap_append.symm
  · exact Nat.succ_le_succ h.levels
  · intro hn
    rw [List.append_cons]
    exact h.nodup (nodup_concat hn new)
  · intro other ho
    rcases List.mem_cons.mp ho with rfl | ho
    · exact ⟨_, _, _, _, aims⟩
    · exact h.aimed other ho

theorem Descends.remember (h : r.Descends pool levels chain pass after further) (place : Place U)
    (record : Fields Json) :
    r.Descends pool levels chain pass (after.remember place record) further where
  visits := (Pass.visits_remember ..).trans h.visits
  requests := (Pass.requests_remember ..).trans h.requests
  levels := h.levels
  nodup := h.nodup
  aimed := h.aimed

/-- **A run is one descent**: it enters one place inside the other, and none after it has left
one. -/
theorem Run.descends {outcome : Except ResolveError (Fields Json)}
    (run : r.Run pool levels chain base record pass outcome after) :
    ∃ further, r.Descends pool levels chain pass after further := by
  induction run with
  | plain | astray | known | builtIn | cycle | tooDeep => exact ⟨[], .stay⟩
  | unopened refers aims new opens => exact ⟨_, .enter aims new opens .stay⟩
  | failed refers aims new opens run ih =>
      obtain ⟨further, h⟩ := ih
      exact ⟨_, .enter aims new opens h⟩
  | merged refers aims new opens run ih =>
      obtain ⟨further, h⟩ := ih
      exact ⟨_, (Descends.enter aims new opens h).remember ..⟩

/-! ### Calls -/

/-- A record from outside the pool is resolved in one descent. -/
theorem descends_resolve (r : Resolver U) (pool : Pool) (v : Json) :
    ∃ further, r.Descends pool r.options.maxDepth [] .start (r.resolve pool v).2 further := by
  obtain ⟨record, outcome, after, -, run, eq⟩ | eq := resolve_cases r pool v
  · rw [eq]
    exact run.descends
  · rw [eq]
    exact ⟨[], .stay⟩

/-- A member is resolved in one descent, in which it comes first. -/
theorem Call.descends {name : String} {outcome : Except ResolveError (Fields Json)}
    (call : r.Call pool name record .start outcome after) (found : pool.get? name = some record) :
    ∃ further, r.Descends pool r.options.maxDepth [] .start after further := by
  cases call with
  | refused => exact ⟨[], .stay⟩
  | entered deep run =>
      obtain ⟨further, h⟩ := run.descends
      have aims : r.Aims pool .start r.options.baseUrl name name
          (.ok (.place (.member name record))) := .member rfl found
      rw [deep]
      exact ⟨_, .enter aims List.not_mem_nil rfl h⟩

theorem descends_resolveNamed (r : Resolver U) (pool : Pool) (name : String) :
    ∃ further,
      r.Descends pool r.options.maxDepth [] .start (r.resolveNamed pool name).2 further := by
  obtain ⟨record, outcome, after, found, call, eq⟩ | ⟨-, eq⟩ := resolveNamed_cases r pool name
  · rw [eq]
    exact call.descends found
  · rw [eq]
    exact ⟨[], .stay⟩

/-- What a pass has entered and asked for is within the depth of the options and, with the pool
alone, the size of the pool. -/
structure Within (r : Resolver U) (pool : Pool) (pass : Pass U) : Prop where
  nodup : ∀ chain ∈ pass.visits, (chain.map Place.key).Nodup
  depth : ∀ chain ∈ pass.visits, chain.length ≤ r.options.maxDepth
  requests : pass.requests.length ≤ r.options.maxDepth
  visits : r.remote = none → pass.visits.length ≤ min r.options.maxDepth pool.size

theorem Descends.within (h : r.Descends pool r.options.maxDepth [] .start after further) :
    r.Within pool after := by
  have visits : after.visits = descent [] further := h.visits
  have requests : after.requests = Place.documents further := h.requests
  have nodup : (further.map Place.key).Nodup := h.nodup List.nodup_nil
  have down (chain) (hc : chain ∈ after.visits) : chain <+: further :=
    prefix_of_mem_descent (visits ▸ hc)
  refine ⟨fun chain hc => ?_, fun chain hc => ?_, ?_, fun alone => ?_⟩
  · exact ((down chain hc).sublist.map _).nodup nodup
  · exact Nat.le_trans (down chain hc).length_le h.levels
  · exact requests ▸ Nat.le_trans (Place.length_documents_le further) h.levels
  · have size := Place.length_le_size nodup fun place hp => (h.aimed place hp).of_alone alone
    rw [visits, length_descent]
    exact Nat.le_min.mpr ⟨h.levels, size⟩

/-! ### The end of the levels -/

/-- A place that a reference leads to cannot be opened only because of its document. -/
theorem Aims.error_opened (aims : r.Aims pool pass base reference requester (.ok (.place place)))
    {before : Pass U} {e : ResolveError}
    (opens : r.opened place reference requester before = (.error e, opened)) :
    (∃ cause, e = .fetch reference requester cause)
      ∨ ∃ entity explanation, e = .invalidRemote reference requester entity explanation := by
  cases aims with
  | member => cases opens
  | document foreign looks reaches located new =>
      rw [opened_document reaches] at opens
      exact received_error (eq_error_of_map (congrArg Prod.fst opens))

/-- **A run that finds no level left has used up all of them**, and has met one place more. -/
theorem Run.tooDeep_inv {outcome : Except ResolveError (Fields Json)}
    (run : r.Run pool levels chain base record pass outcome after) {called asker : String}
    {limit : Nat} (he : outcome = .error (.tooDeep called asker limit))
    (hn : (chain.map Place.key).Nodup) :
    ∃ further, further.length = levels + 1 ∧ ((chain ++ further).map Place.key).Nodup
      ∧ ∀ place ∈ further, r.Aimed pool place := by
  induction run with
  | plain | known | builtIn | cycle | merged => cases he
  | astray refers aims =>
      cases he
      cases aims
  | tooDeep refers aims new =>
      refine ⟨[_], rfl, nodup_concat hn new, fun place hp => ?_⟩
      obtain rfl := List.mem_singleton.mp hp
      exact ⟨_, _, _, _, aims⟩
  | unopened refers aims new opens =>
      cases he
      rcases aims.error_opened opens with ⟨cause, he⟩ | ⟨entity, explanation, he⟩ <;> cases he
  | @failed _ _ _ _ _ _ _ _ _ _ place _ refers aims new opens run ih =>
      obtain ⟨further, hl, hnodup, aimed⟩ := ih he (nodup_concat hn new)
      refine ⟨place :: further, congrArg (· + 1) hl, ?_, fun other ho => ?_⟩
      · rwa [List.append_cons]
      · rcases List.mem_cons.mp ho with rfl | ho
        · exact ⟨_, _, _, _, aims⟩
        · exact aimed other ho

/-- **Where there are as many levels as members, none is wanting** to a resolver that knows the pool
alone. -/
theorem Run.ne_tooDeep {outcome : Except ResolveError (Fields Json)}
    (run : r.Run pool levels chain base record pass outcome after) (alone : r.remote = none)
    (hn : (chain.map Place.key).Nodup) (hc : ∀ place ∈ chain, place.Local pool)
    (hl : pool.size ≤ chain.length + levels) {called asker : String} {limit : Nat} :
    outcome ≠ .error (.tooDeep called asker limit) := by
  intro he
  obtain ⟨further, hf, nodup, aimed⟩ := run.tooDeep_inv he hn
  have places := Place.length_le_size nodup fun place hp =>
    (List.mem_append.mp hp).elim (hc place) fun hp => (aimed place hp).of_alone alone
  rw [List.length_append] at places
  omega

theorem Call.ne_tooDeep {name : String} {outcome : Except ResolveError (Fields Json)}
    (call : r.Call pool name record pass outcome after) (alone : r.remote = none)
    (found : pool.get? name = some record) (hl : pool.size ≤ r.options.maxDepth)
    {called asker : String} {limit : Nat} : outcome ≠ .error (.tooDeep called asker limit) := by
  have self : ∀ place ∈ [(.member name record : Place U)], place.Local pool :=
    fun place hp => List.mem_singleton.mp hp ▸ found
  cases call with
  | refused flat =>
      have one : [(.member name record : Place U)].length ≤ pool.size :=
        Place.length_le_size (List.pairwise_singleton ..) self
      rw [List.length_singleton] at one
      omega
  | entered deep run =>
      refine run.ne_tooDeep alone (List.pairwise_singleton ..) self ?_
      rw [List.length_singleton]
      omega

end Resolver

end Dossier
