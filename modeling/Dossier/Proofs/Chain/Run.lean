import Dossier.Chain.Resolver

/-!
# Chain — how a resolution runs

`Aims` says where a reference leads in a pass, and `Run` how resolving a record comes out, with one
constructor for each way.  Both are about either resolver; where documents come in, one that can
fetch is asked for.  Whatever holds of all resolutions is proved by induction on runs.

* `Resolver.aims_exists`, `Resolver.exists_run`: every reference leads somewhere or fails to, and
  every record comes out in some way.
* `LocalResolver.resolveFrom_of_run`, `RemoteResolver.resolveFrom_of_run`: each of the two resolvers,
  which are written one apart from the other, comes out as the run does.
* `Resolver.run_resolveFrom`, `Resolver.Run.resolveFrom_eq`: so either resolver runs in one of these
  ways, and in no other.
* `Resolver.opened_document`, `Resolver.answer_of_opened`: opening a document asks for it, and
  yields the record that the answer is, if the schema accepts it.
-/

namespace Dossier

variable {U : Type} [Urls U]

@[simp] theorem Pass.requests_remember (p : Pass U) (place : Place U) (record : Fields Json) :
    (p.remember place record).requests = p.requests := by
  rw [requests, requests, log_remember]

/-- What a reference leads to. -/
inductive Target (U : Type) where
  /-- A record that is resolved already. -/
  | known (record : Fields Json)
  | builtIn
  | place (place : Place U)

namespace Resolver

variable {r : Resolver U} {pool : Pool} {levels : Nat} {chain : List (Place U)} {base : Option U}
  {record : Fields Json} {reference requester : String} {pass : Pass U}

/-! ### Where a reference leads -/

/-- The reference is remembered under no name, and is neither a member nor a built-in. -/
structure Foreign (r : Resolver U) (pool : Pool) (pass : Pass U) (reference : String) : Prop where
  new : Fields.find? pass.resolved reference = none
  outside : pool.get? reference = none
  unlisted : r.options.isBuiltIn reference = false

/-- Where a reference leads, or why it leads nowhere. -/
inductive Aims (r : Resolver U) (pool : Pool) (pass : Pass U) (base : Option U)
    (reference requester : String) : Except ResolveError (Target U) → Prop where
  | remembered {ancestor : Fields Json}
      (known : Fields.find? pass.resolved reference = some ancestor) :
      Aims r pool pass base reference requester (.ok (.known ancestor))
  | member {inner : Fields Json} (new : Fields.find? pass.resolved reference = none)
      (found : pool.get? reference = some inner) :
      Aims r pool pass base reference requester (.ok (.place (.member reference inner)))
  | builtIn (new : Fields.find? pass.resolved reference = none)
      (outside : pool.get? reference = none) (listed : r.options.isBuiltIn reference = true) :
      Aims r pool pass base reference requester (.ok .builtIn)
  | missing (foreign : r.Foreign pool pass reference)
      (looks : Reference.isRemote reference = false) :
      Aims r pool pass base reference requester (.error (.missing reference requester))
  | unsupported (foreign : r.Foreign pool pass reference)
      (looks : Reference.isRemote reference = true) (alone : r.remote = none) :
      Aims r pool pass base reference requester (.error (.remoteUnsupported reference requester))
  | invalid {remote : Remote U} {cause : UrlError} (foreign : r.Foreign pool pass reference)
      (looks : Reference.isRemote reference = true) (reaches : r.remote = some remote)
      (located : Urls.join base reference = .error cause) :
      Aims r pool pass base reference requester (.error (.invalidUrl reference requester cause))
  | fetched {remote : Remote U} {url : U} {ancestor : Fields Json}
      (foreign : r.Foreign pool pass reference) (looks : Reference.isRemote reference = true)
      (reaches : r.remote = some remote) (located : Urls.join base reference = .ok url)
      (known : Fields.find? pass.fetched (Urls.text url) = some ancestor) :
      Aims r pool pass base reference requester (.ok (.known ancestor))
  | document {remote : Remote U} {url : U} (foreign : r.Foreign pool pass reference)
      (looks : Reference.isRemote reference = true) (reaches : r.remote = some remote)
      (located : Urls.join base reference = .ok url)
      (new : Fields.find? pass.fetched (Urls.text url) = none) :
      Aims r pool pass base reference requester (.ok (.place (.document url)))

theorem aims_exists (r : Resolver U) (pool : Pool) (pass : Pass U) (base : Option U)
    (reference requester : String) : ∃ aim, r.Aims pool pass base reference requester aim := by
  cases hn : Fields.find? pass.resolved reference with
  | some ancestor => exact ⟨_, .remembered hn⟩
  | none =>
      cases hm : pool.get? reference with
      | some inner => exact ⟨_, .member hn hm⟩
      | none =>
          cases hb : r.options.isBuiltIn reference with
          | true => exact ⟨_, .builtIn hn hm hb⟩
          | false =>
              have foreign : r.Foreign pool pass reference := ⟨hn, hm, hb⟩
              cases looks : Reference.isRemote reference with
              | false => exact ⟨_, .missing foreign looks⟩
              | true =>
                  cases hr : r.remote with
                  | none => exact ⟨_, .unsupported foreign looks hr⟩
                  | some remote =>
                      cases hu : Urls.join base reference with
                      | error cause => exact ⟨_, .invalid foreign looks hr hu⟩
                      | ok url =>
                          cases hf : Fields.find? pass.fetched (Urls.text url) with
                          | some ancestor => exact ⟨_, .fetched foreign looks hr hu hf⟩
                          | none => exact ⟨_, .document foreign looks hr hu hf⟩

/-! ### Results -/

section

variable {α β : Type} {result : Except ResolveError α} {f : α → β}

theorem exists_of_map_eq_ok {b : β} (h : result.map f = .ok b) : ∃ a, result = .ok a ∧ b = f a := by
  cases result with
  | error e => cases h
  | ok a =>
      cases h
      exact ⟨a, rfl, rfl⟩

theorem eq_error_of_map {e : ResolveError} (h : result.map f = .error e) : result = .error e := by
  cases result with
  | error cause =>
      cases h
      rfl
  | ok a => cases h

end

/-! ### Opening a place -/

section

omit [Urls U]

/-- The record of a place, and the base of the references in it. -/
def opened (r : Resolver U) (place : Place U) (reference requester : String) (pass : Pass U) :
    Outcome U (Fields Json × Option U) :=
  match place with
  | .member _ record => (.ok (record, r.options.baseUrl), pass)
  | .document url =>
    match r.remote with
    | none => (.error (.remoteUnsupported reference requester), pass)
    | some remote =>
      match RemoteResolver.fetched ⟨r.options, remote⟩ url reference requester pass with
      | (.error e, pass) => (.error e, pass)
      | (.ok record, pass) => (.ok (record, some url), pass)

/-- The record that an answer is, if the schema accepts it. -/
def received (remote : Remote U) (mode : Mode) (reference requester : String) :
    Except FetchError Json → Except ResolveError (Fields Json)
  | .error cause => .error (.fetch reference requester cause)
  | .ok payload =>
    let refused := ResolveError.invalidRemote reference requester remote.schema.dtoName
      (remote.schema.explain remote.registry mode payload)
    match payload with
    | .obj fields =>
      if remote.schema.acceptsFields remote.registry mode fields then .ok fields else .error refused
    | _ => .error refused

theorem received_eq_ok_iff {remote : Remote U} {mode : Mode} {answer : Except FetchError Json}
    {inner : Fields Json} : received remote mode reference requester answer = .ok inner
      ↔ answer = .ok (.obj inner)
        ∧ remote.schema.acceptsFields remote.registry mode inner = true := by
  unfold received
  constructor
  · intro h
    split at h
    · cases h
    · split at h
      · split at h
        · next accepted =>
          cases h
          exact ⟨rfl, accepted⟩
        · cases h
      · cases h
  · rintro ⟨rfl, accepted⟩
    exact if_pos accepted

/-- What is not received is not fetched or not valid. -/
theorem received_error {remote : Remote U} {mode : Mode} {answer : Except FetchError Json}
    {e : ResolveError} (h : received remote mode reference requester answer = .error e) :
    (∃ cause, e = .fetch reference requester cause)
      ∨ ∃ entity explanation, e = .invalidRemote reference requester entity explanation := by
  unfold received at h
  split at h
  · cases h
    exact .inl ⟨_, rfl⟩
  · split at h
    · split at h
      · cases h
      · cases h
        exact .inr ⟨_, _, rfl⟩
    · cases h
      exact .inr ⟨_, _, rfl⟩

/-- A document is asked for, and its record is what is received. -/
theorem fetched_eq (r : RemoteResolver U) (url : U) (reference requester : String) (pass : Pass U) :
    r.fetched url reference requester pass
      = (received r.remote r.options.mode reference requester (r.remote.fetch pass.requests url),
        pass.note (.requested url (r.remote.fetch pass.requests url))) := by
  unfold RemoteResolver.fetched received
  cases r.remote.fetch pass.requests url with
  | error cause => rfl
  | ok payload =>
      cases payload with
      | obj fields =>
          dsimp only
          split <;> rfl
      | _ => rfl

theorem opened_document {remote : Remote U} (hr : r.remote = some remote) (url : U) :
    r.opened (.document url) reference requester pass
      = ((received remote r.options.mode reference requester (remote.fetch pass.requests url)).map
          fun inner => (inner, some url),
        pass.note (.requested url (remote.fetch pass.requests url))) := by
  simp only [opened, hr, fetched_eq]
  cases received remote r.options.mode reference requester (remote.fetch pass.requests url) <;> rfl

/-- What an opened document was answered with. -/
theorem answer_of_opened {remote : Remote U} (hr : r.remote = some remote) {url : U}
    {inner : Fields Json} {innerBase : Option U} {opened : Pass U}
    (opens : r.opened (.document url) reference requester pass = (.ok (inner, innerBase), opened)) :
    innerBase = some url ∧ remote.fetch pass.requests url = .ok (.obj inner)
      ∧ remote.schema.acceptsFields remote.registry r.options.mode inner = true
      ∧ opened = pass.note (.requested url (.ok (.obj inner))) := by
  rw [opened_document hr] at opens
  obtain ⟨found, hreceived, he⟩ := exists_of_map_eq_ok (congrArg Prod.fst opens)
  cases he
  obtain ⟨answer, accepted⟩ := received_eq_ok_iff.mp hreceived
  exact ⟨rfl, answer, accepted, (congrArg Prod.snd opens).symm.trans (by rw [answer])⟩

/-- Opening a place remembers nothing. -/
theorem tables_of_opened {place : Place U}
    {found : Except ResolveError (Fields Json × Option U)} {opened : Pass U}
    (opens : r.opened place reference requester pass = (found, opened)) :
    opened.resolved = pass.resolved ∧ opened.fetched = pass.fetched := by
  cases place with
  | member name record =>
      cases opens
      exact ⟨rfl, rfl⟩
  | document url =>
      cases hr : r.remote with
      | none =>
          simp only [Resolver.opened, hr] at opens
          cases opens
          exact ⟨rfl, rfl⟩
      | some remote =>
          rw [opened_document hr] at opens
          cases opens
          exact ⟨rfl, rfl⟩

/-- A document that is opened is fetched. -/
theorem fetched_of_opened {o : Options U} {remote : Remote U} {url : U} {inner : Fields Json}
    {innerBase : Option U} {after : Pass U}
    (opens : opened ⟨o, some remote⟩ (.document url) reference requester pass
      = (.ok (inner, innerBase), after)) :
    RemoteResolver.fetched ⟨o, remote⟩ url reference requester pass = (.ok inner, after)
      ∧ innerBase = some url := by
  simp only [Resolver.opened] at opens
  split at opens
  · cases opens
  · next fetches =>
    cases opens
    exact ⟨fetches, rfl⟩

theorem fetched_of_unopened {o : Options U} {remote : Remote U} {url : U} {e : ResolveError}
    {after : Pass U}
    (opens : opened ⟨o, some remote⟩ (.document url) reference requester pass
      = (.error e, after)) :
    RemoteResolver.fetched ⟨o, remote⟩ url reference requester pass = (.error e, after) := by
  simp only [Resolver.opened] at opens
  split at opens
  · next fetches =>
    cases opens
    exact fetches
  · cases opens

end

/-! ### Runs -/

/-- How resolving a record comes out, and the pass after it. -/
inductive Run (r : Resolver U) (pool : Pool) :
    Nat → List (Place U) → Option U → Fields Json → Pass U → Except ResolveError (Fields Json) →
      Pass U → Prop where
  /-- The record refers to nothing. -/
  | plain {levels : Nat} {chain : List (Place U)} {base : Option U} {record : Fields Json}
      {pass : Pass U} (refers : r.options.layout.extendOf? record = none) :
      Run r pool levels chain base record pass (.ok record) pass
  /-- Its reference leads nowhere. -/
  | astray {levels : Nat} {chain : List (Place U)} {base : Option U} {record : Fields Json}
      {pass : Pass U} {reference : String} {e : ResolveError}
      (refers : r.options.layout.extendOf? record = some reference)
      (aims : r.Aims pool pass base reference (r.options.layout.requester record) (.error e)) :
      Run r pool levels chain base record pass (.error e) pass
  /-- Its ancestor is resolved already. -/
  | known {levels : Nat} {chain : List (Place U)} {base : Option U} {record ancestor : Fields Json}
      {pass : Pass U} {reference : String}
      (refers : r.options.layout.extendOf? record = some reference)
      (aims : r.Aims pool pass base reference (r.options.layout.requester record)
        (.ok (.known ancestor))) :
      Run r pool levels chain base record pass (.ok (r.options.layout.merged ancestor record)) pass
  /-- It is reduced to a built-in. -/
  | builtIn {levels : Nat} {chain : List (Place U)} {base : Option U} {record : Fields Json}
      {pass : Pass U} {reference : String}
      (refers : r.options.layout.extendOf? record = some reference)
      (aims : r.Aims pool pass base reference (r.options.layout.requester record) (.ok .builtIn)) :
      Run r pool levels chain base record pass
        (.ok (r.options.layout.terminal reference record)) pass
  /-- It refers to a place under way. -/
  | cycle {levels : Nat} {chain : List (Place U)} {base : Option U} {record : Fields Json}
      {pass : Pass U} {reference : String} {place : Place U}
      (refers : r.options.layout.extendOf? record = some reference)
      (aims : r.Aims pool pass base reference (r.options.layout.requester record)
        (.ok (.place place)))
      (again : place.key ∈ chain.map Place.key) :
      Run r pool levels chain base record pass
        (.error (.cycle (chain.map Place.key ++ [place.key]))) pass
  /-- No level is left. -/
  | tooDeep {chain : List (Place U)} {base : Option U} {record : Fields Json} {pass : Pass U}
      {reference : String} {place : Place U}
      (refers : r.options.layout.extendOf? record = some reference)
      (aims : r.Aims pool pass base reference (r.options.layout.requester record)
        (.ok (.place place)))
      (new : place.key ∉ chain.map Place.key) :
      Run r pool 0 chain base record pass
        (.error (.tooDeep place.key (r.options.layout.requester record) r.options.maxDepth)) pass
  /-- The place cannot be opened. -/
  | unopened {levels : Nat} {chain : List (Place U)} {base : Option U} {record : Fields Json}
      {pass after : Pass U} {reference : String} {place : Place U} {e : ResolveError}
      (refers : r.options.layout.extendOf? record = some reference)
      (aims : r.Aims pool pass base reference (r.options.layout.requester record)
        (.ok (.place place)))
      (new : place.key ∉ chain.map Place.key)
      (opens : r.opened place reference (r.options.layout.requester record)
        (pass.note (.entered (chain ++ [place]))) = (.error e, after)) :
      Run r pool (levels + 1) chain base record pass (.error e) after
  /-- The record of the place cannot be resolved. -/
  | failed {levels : Nat} {chain : List (Place U)} {base innerBase : Option U}
      {record inner : Fields Json} {pass opened after : Pass U} {reference : String} {place : Place U}
      {e : ResolveError} (refers : r.options.layout.extendOf? record = some reference)
      (aims : r.Aims pool pass base reference (r.options.layout.requester record)
        (.ok (.place place)))
      (new : place.key ∉ chain.map Place.key)
      (opens : r.opened place reference (r.options.layout.requester record)
        (pass.note (.entered (chain ++ [place]))) = (.ok (inner, innerBase), opened))
      (run : Run r pool levels (chain ++ [place]) innerBase inner opened (.error e) after) :
      Run r pool (levels + 1) chain base record pass (.error e) after
  /-- It is resolved, and the record is merged onto what it comes to. -/
  | merged {levels : Nat} {chain : List (Place U)} {base innerBase : Option U}
      {record inner ancestor : Fields Json} {pass opened after : Pass U} {reference : String}
      {place : Place U} (refers : r.options.layout.extendOf? record = some reference)
      (aims : r.Aims pool pass base reference (r.options.layout.requester record)
        (.ok (.place place)))
      (new : place.key ∉ chain.map Place.key)
      (opens : r.opened place reference (r.options.layout.requester record)
        (pass.note (.entered (chain ++ [place]))) = (.ok (inner, innerBase), opened))
      (run : Run r pool levels (chain ++ [place]) innerBase inner opened (.ok ancestor) after) :
      Run r pool (levels + 1) chain base record pass (.ok (r.options.layout.merged ancestor record))
        (after.remember place ancestor)

/-- A record comes out in some way, if it does where its reference leads to a new place. -/
theorem exists_run_of_new {r : Resolver U}
    (h : ∀ reference place, r.options.layout.extendOf? record = some reference →
      r.Aims pool pass base reference (r.options.layout.requester record) (.ok (.place place)) →
      place.key ∉ chain.map Place.key →
      ∃ outcome after, r.Run pool levels chain base record pass outcome after) :
    ∃ outcome after, r.Run pool levels chain base record pass outcome after := by
  cases refers : r.options.layout.extendOf? record with
  | none => exact ⟨_, _, .plain refers⟩
  | some reference =>
      obtain ⟨aim, aims⟩ := aims_exists r pool pass base reference (r.options.layout.requester record)
      match aim, aims with
      | .error e, aims => exact ⟨_, _, .astray refers aims⟩
      | .ok (.known ancestor), aims => exact ⟨_, _, .known refers aims⟩
      | .ok .builtIn, aims => exact ⟨_, _, .builtIn refers aims⟩
      | .ok (.place place), aims =>
          by_cases again : place.key ∈ chain.map Place.key
          · exact ⟨_, _, .cycle refers aims again⟩
          · exact h reference place refers aims again

/-- Every record comes out in some way. -/
theorem exists_run (r : Resolver U) (pool : Pool) (levels : Nat) (chain : List (Place U))
    (base : Option U) (record : Fields Json) (pass : Pass U) :
    ∃ outcome after, r.Run pool levels chain base record pass outcome after := by
  induction levels generalizing chain base record pass with
  | zero => exact exists_run_of_new fun _ _ refers aims new => ⟨_, _, .tooDeep refers aims new⟩
  | succ levels ih =>
      refine exists_run_of_new fun reference place refers aims new => ?_
      cases opens : r.opened place reference (r.options.layout.requester record)
          (pass.note (.entered (chain ++ [place]))) with
      | mk found opened =>
          cases found with
          | error e => exact ⟨_, _, .unopened refers aims new opens⟩
          | ok found =>
              obtain ⟨outcome, after, run⟩ := ih (chain ++ [place]) found.2 found.1 opened
              cases outcome with
              | error e => exact ⟨_, _, .failed refers aims new opens run⟩
              | ok ancestor => exact ⟨_, _, .merged refers aims new opens run⟩

end Resolver

/-! ### The two resolvers -/

section

variable {o : Options U} {remote : Remote U} {pool : Pool} {levels : Nat} {chain : List (Place U)}
  {base : Option U} {record : Fields Json} {pass after : Pass U}
  {outcome : Except ResolveError (Fields Json)}

/-- **The resolver that knows the pool alone** comes out as a record runs without documents. -/
theorem LocalResolver.resolveFrom_of_run
    (run : Resolver.Run ⟨o, none⟩ pool levels chain base record pass outcome after) :
    LocalResolver.resolveFrom ⟨o⟩ pool levels chain record pass = (outcome, after) := by
  induction run with
  | plain refers =>
      rw [resolveFrom.eq_def]
      simp only [refers]
  | astray refers aims =>
      rw [resolveFrom.eq_def]
      cases aims with
      | missing foreign looks | unsupported foreign looks =>
          simp [refers, foreign.new, foreign.outside, foreign.unlisted, looks]
      | invalid foreign looks reaches => cases reaches
  | known refers aims =>
      rw [resolveFrom.eq_def]
      cases aims with
      | remembered known => simp only [refers, known]
      | fetched foreign looks reaches => cases reaches
  | builtIn refers aims =>
      rw [resolveFrom.eq_def]
      cases aims with
      | builtIn new outside listed => simp only [refers, new, outside, listed, if_true]
  | cycle refers aims again =>
      rw [resolveFrom.eq_def]
      cases aims with
      | member new found =>
          simp only [Place.key_member] at again
          simp only [refers, new, found, again, if_true, Place.key_member]
      | document foreign looks reaches => cases reaches
  | tooDeep refers aims fresh =>
      rw [resolveFrom.eq_def]
      cases aims with
      | member new found =>
          simp only [Place.key_member] at fresh
          simp only [refers, new, found, fresh, if_false, Place.key_member]
      | document foreign looks reaches => cases reaches
  | unopened refers aims fresh opens =>
      cases aims with
      | member new found => cases opens
      | document foreign looks reaches => cases reaches
  | failed refers aims fresh opens run ih | merged refers aims fresh opens run ih =>
      rw [resolveFrom.eq_def]
      cases aims with
      | member new found =>
          cases opens
          simp only [Place.key_member] at fresh
          simp only [refers, new, found, fresh, if_false, ih]
      | document foreign looks reaches => cases reaches

/-- **The resolver that can fetch** comes out as a record runs with documents. -/
theorem RemoteResolver.resolveFrom_of_run
    (run : Resolver.Run ⟨o, some remote⟩ pool levels chain base record pass outcome after) :
    RemoteResolver.resolveFrom ⟨o, remote⟩ pool levels chain base record pass = (outcome, after) := by
  induction run with
  | plain refers =>
      rw [resolveFrom.eq_def]
      simp only [refers]
  | astray refers aims =>
      rw [resolveFrom.eq_def]
      cases aims with
      | missing foreign looks =>
          simp [refers, foreign.new, foreign.outside, foreign.unlisted, looks]
      | unsupported foreign looks alone => cases alone
      | invalid foreign looks reaches located =>
          simp [refers, foreign.new, foreign.outside, foreign.unlisted, looks, located]
  | known refers aims =>
      rw [resolveFrom.eq_def]
      cases aims with
      | remembered known => simp only [refers, known]
      | fetched foreign looks reaches located known =>
          simp [refers, foreign.new, foreign.outside, foreign.unlisted, looks, located, known]
  | builtIn refers aims =>
      rw [resolveFrom.eq_def]
      cases aims with
      | builtIn new outside listed => simp only [refers, new, outside, listed, if_true]
  | cycle refers aims again =>
      rw [resolveFrom.eq_def]
      cases aims with
      | member new found =>
          simp only [Place.key_member] at again
          simp only [refers, new, found, again, if_true, Place.key_member]
      | document foreign looks reaches located new =>
          simp only [Place.key_document] at again
          simp [refers, foreign.new, foreign.outside, foreign.unlisted, looks, located, new, again]
  | tooDeep refers aims fresh =>
      rw [resolveFrom.eq_def]
      cases aims with
      | member new found =>
          simp only [Place.key_member] at fresh
          simp only [refers, new, found, fresh, if_false, Place.key_member]
      | document foreign looks reaches located new =>
          simp only [Place.key_document] at fresh
          simp [refers, foreign.new, foreign.outside, foreign.unlisted, looks, located, new, fresh]
  | unopened refers aims fresh opens =>
      rw [resolveFrom.eq_def]
      cases aims with
      | member new found => cases opens
      | document foreign looks reaches located new =>
          have fetches := Resolver.fetched_of_unopened opens
          simp only [Place.key_document] at fresh
          simp [refers, foreign.new, foreign.outside, foreign.unlisted, looks, located, new, fresh,
            fetches]
  | failed refers aims fresh opens run ih | merged refers aims fresh opens run ih =>
      rw [resolveFrom.eq_def]
      cases aims with
      | member new found =>
          cases opens
          simp only [Place.key_member] at fresh
          simp only [refers, new, found, fresh, if_false, ih]
      | document foreign looks reaches located new =>
          obtain ⟨fetches, rfl⟩ := Resolver.fetched_of_opened opens
          simp only [Place.key_document] at fresh
          simp [refers, foreign.new, foreign.outside, foreign.unlisted, looks, located, new, fresh,
            fetches, ih]

end

namespace Resolver

variable {r : Resolver U} {pool : Pool} {levels : Nat} {chain : List (Place U)} {base : Option U}
  {record : Fields Json} {pass after : Pass U} {outcome : Except ResolveError (Fields Json)}

/-- A record runs in no other way than it is resolved. -/
theorem Run.resolveFrom_eq (run : r.Run pool levels chain base record pass outcome after) :
    r.resolveFrom pool levels chain base record pass = (outcome, after) := by
  obtain ⟨o, _ | remote⟩ := r
  · exact LocalResolver.resolveFrom_of_run run
  · exact RemoteResolver.resolveFrom_of_run run

/-- Resolving a record runs in one of these ways. -/
theorem run_resolveFrom (r : Resolver U) (pool : Pool) (levels : Nat) (chain : List (Place U))
    (base : Option U) (record : Fields Json) (pass : Pass U) :
    r.Run pool levels chain base record pass
      (r.resolveFrom pool levels chain base record pass).1
      (r.resolveFrom pool levels chain base record pass).2 := by
  obtain ⟨outcome, after, run⟩ := exists_run r pool levels chain base record pass
  rw [run.resolveFrom_eq]
  exact run

end Resolver

end Dossier
