import Mathlib.Data.List.Forall2
import Dossier.Proofs.Chain.Provenance
import Dossier.Proofs.Chain.Remembered

/-!
# Chain — only accepted documents are merged

What is said here holds of every fetcher, also of one whose answers depend on what was asked for
before.

* `Resolver.Standing`: the record that was reached last in a pass.
* `Resolver.Run.sifted`: by induction on a run, it keeps a pass stocked and comes to a record that is
  put together of what is in it, or it fails, and if at a reference then at that of the record that
  was reached last.
* `only_accepted`: so it is with every call.  A document that is not accepted is the last one that is
  asked for.
-/

namespace Dossier

variable {U : Type}

/-! ### The record reached last -/

namespace Resolver

variable {r : Resolver U} {remote : Remote U} {pool : Pool} {root? : Option (Fields Json)}
  {chain : List (Place U)} {record inner : Fields Json} {reference requester : String} {pass : Pass U}

/-- The record is the one that was reached last: the root, a member or an accepted document. -/
structure Standing (r : Resolver U) (remote : Remote U) (pool : Pool) (root? : Option (Fields Json))
    (pass : Pass U) (record : Fields Json) : Prop where
  last : (root?.toList ++ pass.reached remote r.options.mode).getLast? = some record
  origin : root? = some record ∨ (∃ name, pool.get? name = some record)
    ∨ ∃ url, (url, .ok (.obj record)) ∈ pass.answers ∧ remote.Accepts r.options.mode (.obj record)

theorem Standing.root (record : Fields Json) :
    Standing r remote pool (some record) .start record where
  last := rfl
  origin := .inl rfl

theorem standing_member {name : String} (last : chain.getLast? = some (.member name inner))
    (found : pool.get? name = some inner) :
    Standing r remote pool root? (pass.note (.entered chain)) inner where
  last := by simp [Pass.reached_note, Remote.reached?, last]
  origin := .inr (.inl ⟨name, found⟩)

theorem standing_document {url : U} (accepted : remote.Accepts r.options.mode (.obj inner)) :
    Standing r remote pool root? (pass.note (.requested url (.ok (.obj inner)))) inner where
  last := by simp [Pass.reached_note, Remote.reached?, Remote.intake_of_accepts accepted]
  origin := .inr (.inr ⟨url, by simp, accepted⟩)

/-- A document that is entered and not accepted is not reached. -/
theorem Standing.unanswered (h : Standing r remote pool root? pass record) (chain : List (Place U))
    {url : U} {answer : Except FetchError Json} {e : ResolveError}
    (fails : received remote r.options.mode reference requester answer = .error e) :
    Standing r remote pool root?
      ((pass.note (.entered (chain ++ [.document url]))).note (.requested url answer)) record where
  last := by
    have unreached : remote.reached? r.options.mode (.requested url answer) = none := by
      cases answer with
      | error cause => rfl
      | ok payload =>
          have refused := (Remote.refused_of_received fails).1
          simp [Remote.reached?, Remote.intake_of_not_accepts refused]
    have outside : remote.reached? r.options.mode (.entered (chain ++ [.document url])) = none := by
      simp [Remote.reached?]
    simpa [Pass.reached_note, unreached, outside] using h.last
  origin := h.origin.imp_right (Or.imp_right fun ⟨other, answered, accepted⟩ =>
    ⟨other, by simp [answered], accepted⟩)

end Resolver

/-! ### Failures -/

/-- Is it a failure at the reference of one record? -/
def ResolveError.AtReference : ResolveError → Prop
  | .missing .. | .invalidUrl .. | .fetch .. | .invalidRemote .. => True
  | _ => False

/-- The reference is the text that stands for it in the record, and the requester is its name. -/
structure Layout.Refers (l : Layout) (record : Fields Json) (reference requester : String) :
    Prop where
  reference_eq : Fields.find? record l.extend = some (.str reference)
  requester_eq : requester = (l.nameOf? record).getD "<anonymous>"

theorem Layout.refers_of_extendOf? {l : Layout} {record : Fields Json} {reference : String}
    (h : l.extendOf? record = some reference) : l.Refers record reference (l.requester record) :=
  ⟨find?_of_extendOf? h, rfl⟩

namespace Resolver

variable {r : Resolver U} {remote : Remote U} {pool : Pool} {root? : Option (Fields Json)}
  {levels : Nat} {chain : List (Place U)} {base innerBase : Option U} {record inner : Fields Json}
  {reference requester : String} {place : Place U} {pass opened after : Pass U} {e : ResolveError}

/-- It fails at the reference of the record, and where a document is the reason, it is the one that
was asked for last. -/
inductive FailsAt (r : Resolver U) (remote : Remote U) (pass : Pass U) (record : Fields Json) :
    ResolveError → Prop where
  | missing {reference requester : String}
      (refers : r.options.layout.Refers record reference requester) :
      FailsAt r remote pass record (.missing reference requester)
  | invalidUrl {reference requester : String} {cause : UrlError}
      (refers : r.options.layout.Refers record reference requester) :
      FailsAt r remote pass record (.invalidUrl reference requester cause)
  | fetch {reference requester : String} {url : U} {cause : FetchError}
      (refers : r.options.layout.Refers record reference requester)
      (answered : pass.answers.getLast? = some (url, .error cause)) :
      FailsAt r remote pass record (.fetch reference requester cause)
  | invalidRemote {reference requester : String} {url : U} {payload : Json}
      (refers : r.options.layout.Refers record reference requester)
      (answered : pass.answers.getLast? = some (url, .ok payload))
      (refused : ¬ remote.Accepts r.options.mode payload)
      (explains : remote.schema.explain remote.registry r.options.mode payload ≠ "OK") :
      FailsAt r remote pass record (.invalidRemote reference requester remote.schema.dtoName
        (remote.schema.explain remote.registry r.options.mode payload))

theorem FailsAt.of_received (url : U) {answer : Except FetchError Json}
    (refers : r.options.layout.Refers record reference requester)
    (answered : pass.answers.getLast? = some (url, answer))
    (fails : received remote r.options.mode reference requester answer = .error e) :
    FailsAt r remote pass record e := by
  cases answer with
  | error cause =>
      cases fails
      exact .fetch refers answered
  | ok payload =>
      obtain ⟨refused, rfl, explains⟩ := Remote.refused_of_received fails
      exact .invalidRemote refers answered refused explains

variable [Urls U]

/-- Why a call fails: at the reference of the record that was reached last, if at one at all. -/
structure Failed (r : Resolver U) (remote : Remote U) (pool : Pool) (root? : Option (Fields Json))
    (pass : Pass U) (e : ResolveError) : Prop where
  screened : remote.Cleared r.options.mode pass.answers
    ∨ remote.Stopped r.options.mode e pass.answers
  blamed : e.AtReference →
    ∃ record, Standing r remote pool root? pass record ∧ FailsAt r remote pass record e

/-- A call has asked for more documents, and has then come to a result that was made as it should, or
has failed as it may. -/
structure Sifted (r : Resolver U) (remote : Remote U) (pool : Pool) (root? : Option (Fields Json))
    (pass : Pass U) {α : Type} (Made : α → Prop) (outcome : Except ResolveError α) (after : Pass U) :
    Prop where
  grows : pass.answers ⊆ after.answers
  ok : ∀ result, outcome = .ok result → Pass.Stocked r remote pool after ∧ Made result
  error : ∀ e, outcome = .error e → Failed r remote pool root? after e

section

variable {α : Type} {Made : α → Prop} {result : α}

theorem Sifted.of_ok (grows : pass.answers ⊆ after.answers) (h : Pass.Stocked r remote pool after)
    (made : Made result) : Sifted r remote pool root? pass Made (.ok result) after where
  grows := grows
  ok _ he := by
    cases he
    exact ⟨h, made⟩
  error _ he := nomatch he

theorem Sifted.of_error (grows : pass.answers ⊆ after.answers)
    (h : Failed r remote pool root? after e) :
    Sifted r remote pool root? pass Made (.error e) after where
  grows := grows
  ok _ he := nomatch he
  error _ he := by
    cases he
    exact h

end

/-! ### Runs -/

/-- The record of a place that is opened is reached, and may be drawn on. -/
theorem Aims.draws (aims : r.Aims pool pass base reference requester (.ok (.place place)))
    (hr : r.remote = some remote) (refers : r.options.layout.extendOf? record = some reference)
    (h : Pass.Stocked r remote pool pass)
    (opens : r.opened place reference requester (pass.note (.entered (chain ++ [place])))
      = (.ok (inner, innerBase), opened)) :
    pass.answers ⊆ opened.answers ∧ Pass.Stocked r remote pool opened
      ∧ Standing r remote pool root? opened inner
      ∧ r.Draws remote pool opened.answers base record place innerBase inner := by
  cases aims with
  | member new found =>
      cases opens
      refine ⟨?_, h.enter _, standing_member List.getLast?_concat found, .member refers found⟩
      rw [Pass.answers_note_entered]
      exact List.Subset.refl _
  | document foreign looks reaches located new =>
      obtain ⟨rfl, answer, accepted, rfl⟩ := answer_of_opened hr opens
      refine ⟨?_, (h.enter _).ask answer accepted, standing_document accepted, ?_⟩
      · rw [Pass.answers_note_requested, Pass.answers_note_entered]
        exact List.subset_append_left ..
      · refine .document refers foreign.outside foreign.unlisted looks located rfl ?_ accepted
        rw [Pass.answers_note_requested]
        exact List.mem_append_right _ (List.mem_singleton.mpr rfl)

/-- A place that cannot be opened is a document, and the last one that is asked for. -/
theorem Aims.failed (aims : r.Aims pool pass base reference (r.options.layout.requester record)
      (.ok (.place place)))
    (hr : r.remote = some remote) (refers : r.options.layout.extendOf? record = some reference)
    (h : Pass.Stocked r remote pool pass) (standing : Standing r remote pool root? pass record)
    (opens : r.opened place reference (r.options.layout.requester record)
      (pass.note (.entered (chain ++ [place]))) = (.error e, after)) :
    pass.answers ⊆ after.answers ∧ Failed r remote pool root? after e := by
  cases aims with
  | member new found => cases opens
  | @document _ url foreign looks reaches located new =>
      rw [opened_document hr] at opens
      have fails := eq_error_of_map (congrArg Prod.fst opens)
      obtain rfl := congrArg Prod.snd opens
      refine ⟨?_, .inr ?_, fun _ => ⟨record, standing.unanswered chain fails, ?_⟩⟩
      · rw [Pass.answers_note_requested, Pass.answers_note_entered]
        exact List.subset_append_left ..
      · rw [Pass.answers_note_requested, ← Pass.map_fst_answers]
        rw [← Pass.map_fst_answers] at fails
        exact .last (h.enter _).cleared fails
      · refine .of_received url (Layout.refers_of_extendOf? refers) ?_ fails
        rw [Pass.answers_note_requested, List.getLast?_concat]

/-- **A run keeps a pass stocked and comes to a record that is put together of what is in it**, or it
fails at the reference of the record that was reached last. -/
theorem Run.sifted {outcome : Except ResolveError (Fields Json)}
    (run : r.Run pool levels chain base record pass outcome after) (hr : r.remote = some remote)
    (h : Pass.Stocked r remote pool pass) (standing : Standing r remote pool root? pass record) :
    Sifted r remote pool root? pass
      (fun result => r.Assembled remote pool after.answers base record result) outcome after := by
  induction run with
  | plain refers => exact .of_ok (List.Subset.refl _) h (.plain refers)
  | known refers aims => exact .of_ok (List.Subset.refl _) h (aims.assembled h refers)
  | builtIn refers aims =>
      cases aims with
      | builtIn new outside listed =>
          exact .of_ok (List.Subset.refl _) h (.builtIn refers outside listed)
  | cycle | tooDeep => exact .of_error (List.Subset.refl _) ⟨.inl h.cleared, False.elim⟩
  | astray refers aims =>
      have named := Layout.refers_of_extendOf? refers
      refine .of_error (List.Subset.refl _) ⟨.inl h.cleared, fun located => ⟨_, standing, ?_⟩⟩
      cases aims with
      | missing => exact .missing named
      | unsupported => exact located.elim
      | invalid => exact .invalidUrl named
  | unopened refers aims new opens =>
      obtain ⟨grows, failed⟩ := aims.failed hr refers h standing opens
      exact .of_error grows failed
  | failed refers aims new opens run ih =>
      obtain ⟨asked, stocked, reached, draws⟩ := aims.draws hr refers h opens
      have inner := ih stocked reached
      exact .of_error (List.Subset.trans asked inner.grows) (inner.error _ rfl)
  | merged refers aims new opens run ih =>
      obtain ⟨asked, stocked, reached, draws⟩ := aims.draws hr refers h opens
      have inner := ih stocked reached
      obtain ⟨stocked, made⟩ := inner.ok _ rfl
      have drawn := draws.mono inner.grows
      refine .of_ok ?_ (stocked.remember drawn made) ?_
      · rw [Pass.answers_remember]
        exact List.Subset.trans asked inner.grows
      · rw [Pass.answers_remember]
        exact .child drawn made

/-! ### Members and collections -/

theorem Call.sifted {name : String} {outcome : Except ResolveError (Fields Json)}
    (call : r.Call pool name record pass outcome after) (hr : r.remote = some remote)
    (found : pool.get? name = some record) (h : Pass.Stocked r remote pool pass) :
    Sifted r remote pool none pass
      (fun result => r.Assembled remote pool after.answers r.options.baseUrl record result) outcome
      after := by
  cases call with
  | refused => exact .of_error (List.Subset.refl _) ⟨.inl h.cleared, False.elim⟩
  | entered deep run =>
      have standing : Standing r remote pool none (pass.note (.entered [.member name record]))
        record := standing_member rfl found
      have entered := run.sifted hr (h.enter _) standing
      exact ⟨by simpa using entered.grows, entered.ok, entered.error⟩

theorem Turn.sifted {name : String} {outcome : Except ResolveError (Fields Json)}
    (turn : r.Turn pool name record pass outcome after) (hr : r.remote = some remote)
    (found : pool.get? name = some record) (h : Pass.Stocked r remote pool pass) :
    Sifted r remote pool none pass
      (fun result => r.Assembled remote pool after.answers r.options.baseUrl record result) outcome
      after := by
  cases turn with
  | known known =>
      obtain ⟨inner, member, made⟩ := h.resolved _ _ known
      obtain rfl := Option.some.inj (found.symm.trans member)
      exact .of_ok (List.Subset.refl _) h made
  | failed new call => exact call.sifted hr found h
  | resolved new call =>
      have resolved := call.sifted hr found h
      obtain ⟨stocked, made⟩ := resolved.ok _ rfl
      refine .of_ok ?_ (stocked.remember_member found made) ?_
      · rw [Pass.answers_remember]
        exact resolved.grows
      · rwa [Pass.answers_remember]

/-- The value is a record that is put together of what is in the pass, beginning with the given
one. -/
def Comprises (r : Resolver U) (remote : Remote U) (pool : Pool) (pass : Pass U)
    (record : Fields Json) (value : Json) : Prop :=
  ∃ own, value = .obj own ∧ r.Assembled remote pool pass.answers r.options.baseUrl record own

/-- The members of a collection come to records that are put together so. -/
theorem Row.sifted {records : List (String × Fields Json)}
    {outcome : Except ResolveError (List Json)} (row : r.Row pool records pass outcome after)
    (hr : r.remote = some remote) (found : ∀ e ∈ records, pool.get? e.1 = some e.2)
    (h : Pass.Stocked r remote pool pass) :
    Sifted r remote pool none pass
      (fun results => List.Forall₂ (fun e value => r.Comprises remote pool after e.2 value)
        records results) outcome after := by
  induction row with
  | nil => exact .of_ok (List.Subset.refl _) h .nil
  | stopped turn =>
      have first := turn.sifted hr (found _ (List.mem_cons_self ..)) h
      exact .of_error first.grows (first.error _ rfl)
  | failed turn row ih =>
      have first := turn.sifted hr (found _ (List.mem_cons_self ..)) h
      have others := ih (fun e he => found e (List.mem_cons_of_mem _ he)) (first.ok _ rfl).1
      exact .of_error (List.Subset.trans first.grows others.grows) (others.error _ rfl)
  | cons turn row ih =>
      have first := turn.sifted hr (found _ (List.mem_cons_self ..)) h
      obtain ⟨stocked, made⟩ := first.ok _ rfl
      have others := ih (fun e he => found e (List.mem_cons_of_mem _ he)) stocked
      obtain ⟨stocked, results⟩ := others.ok _ rfl
      exact .of_ok (List.Subset.trans first.grows others.grows) stocked
        (.cons ⟨_, rfl, made.mono others.grows⟩ results)

/-! ### Calls -/

/-- What holds of a call that may ask for documents, and of the pass that it leaves. -/
structure Vetted (r : Resolver U) (remote : Remote U) (pool : Pool) (root? : Option (Fields Json))
    {α : Type} (Made : Pass U → α → Prop) (call : Outcome U α) : Prop where
  /-- Each answer is the one that the fetcher gives after what was asked for before. -/
  served : ∀ front url answer back, call.2.answers = front ++ (url, answer) :: back →
    answer = remote.fetch (front.map Prod.fst) url
  /-- A document that is not accepted is the last one asked for, and the call fails for it. -/
  refused : ∀ front url payload back, call.2.answers = front ++ (url, .ok payload) :: back →
    ¬ remote.Accepts r.options.mode payload →
    back = [] ∧ ∃ reference requester, call.1 = .error (.invalidRemote reference requester
      remote.schema.dtoName (remote.schema.explain remote.registry r.options.mode payload))
  /-- Where the call succeeds, all documents that were asked for are accepted objects. -/
  cleared : ∀ result, call.1 = .ok result → ∀ url answer, (url, answer) ∈ call.2.answers →
    ∃ record, answer = .ok (.obj record) ∧ remote.Accepts r.options.mode (.obj record)
  /-- A result is made as it should. -/
  made : ∀ result, call.1 = .ok result → Made call.2 result
  /-- A failure at a reference is one of the record that was reached last. -/
  blamed : ∀ e, call.1 = .error e → e.AtReference →
    ∃ record, Standing r remote pool root? call.2 record ∧ FailsAt r remote call.2 record e

section

variable {α : Type} {Made : Pass U → α → Prop} {outcome : Except ResolveError α}

/-- Each answer is the fetcher's; and it is an accepted object, or the last one, and then the reason
why the call fails. -/
theorem Sifted.split (h : Sifted r remote pool root? pass (Made after) outcome after)
    {front back : List (U × Except FetchError Json)} {url : U}
    {answer : Except FetchError Json} (split : after.answers = front ++ (url, answer) :: back) :
    answer = remote.fetch (front.map Prod.fst) url
      ∧ ((∃ record, answer = .ok (.obj record) ∧ remote.Accepts r.options.mode (.obj record))
        ∨ back = [] ∧ ∃ reference requester e, outcome = .error e
          ∧ received remote r.options.mode reference requester answer = .error e) := by
  cases outcome with
  | ok result =>
      obtain ⟨served, accepted⟩ := (h.ok result rfl).1.cleared.split split
      exact ⟨served, .inl accepted⟩
  | error e =>
      rcases (h.error e rfl).screened with cleared | stopped
      · obtain ⟨served, accepted⟩ := cleared.split split
        exact ⟨served, .inl accepted⟩
      · obtain ⟨served, accepted | ⟨last, reference, requester, fails⟩⟩ := stopped.split split
        · exact ⟨served, .inl accepted⟩
        · exact ⟨served, .inr ⟨last, reference, requester, e, rfl, fails⟩⟩

theorem Sifted.vetted (h : Sifted r remote pool root? pass (Made after) outcome after) :
    Vetted r remote pool root? Made (outcome, after) where
  served front url answer back split := (h.split split).1
  refused front url payload back split refused := by
    rcases (h.split split).2 with ⟨record, he, accepted⟩ | ⟨last, reference, requester, e, he, fails⟩
    · cases he
      exact absurd accepted refused
    · obtain ⟨-, rfl, -⟩ := Remote.refused_of_received fails
      exact ⟨last, reference, requester, he⟩
  cleared result he url answer hm := by
    obtain ⟨front, back, split⟩ := List.append_of_mem hm
    exact ((h.ok result he).1.cleared.split split).2
  made result he := (h.ok result he).2
  blamed e he := (h.error e he).blamed

omit [Urls U] in
theorem Vetted.imp {Other : Pass U → α → Prop} {call : Outcome U α}
    (h : Vetted r remote pool root? Made call)
    (implies : ∀ pass result, Made pass result → Other pass result) :
    Vetted r remote pool root? Other call :=
  { h with made := fun result he => implies _ _ (h.made result he) }

end

theorem Sifted.comprises {outcome : Except ResolveError (Fields Json)}
    (h : Sifted r remote pool root? pass
      (fun own => r.Assembled remote pool after.answers r.options.baseUrl record own) outcome
      after) :
    Sifted r remote pool root? pass (r.Comprises remote pool after record) (outcome.map .obj)
      after where
  grows := h.grows
  ok result he := by
    obtain ⟨own, hown, rfl⟩ := exists_of_map_eq_ok he
    obtain ⟨stocked, made⟩ := h.ok own hown
    exact ⟨stocked, own, rfl, made⟩
  error e he := h.error e (eq_error_of_map he)

/-- A call that has asked for nothing may fail at no reference. -/
theorem vetted_of_silent {α : Type} {Made : Pass U → α → Prop} (he : ¬ e.AtReference) :
    Vetted r remote pool root? Made (.error e, .start) :=
  have sifted : Sifted r remote pool root? .start (Made .start) (.error e) .start :=
    .of_error (List.Subset.refl _) ⟨.inl .nil, fun h => (he h).elim⟩
  sifted.vetted

end Resolver

variable [Urls U]

/-- **Only accepted documents enter a result**, whatever the options, the pool and the fetcher.  In
every call a document that is not accepted is the last one that is asked for, and the call fails for
it with its explanation; a call that succeeds comes to records that are put together of members,
built-ins and documents that were answered and accepted; and a failure at a reference names the text
that stands in the record reached last, and the name of that record.  The guard is asked first about
every document, and then no document is there that is not an object. -/
theorem only_accepted (o : Options U) (remote : Remote U) (pool : Pool) :
    let r : Resolver U := ⟨o, some remote⟩
    (∀ v, r.Vetted remote pool v.obj? (fun pass result =>
        ∃ record, v = .obj record ∧ r.Comprises remote pool pass record result) (r.resolve pool v))
    ∧ (∀ name, r.Vetted remote pool none (fun pass result =>
        ∃ record, pool.get? name = some record ∧ r.Comprises remote pool pass record result)
      (r.resolveNamed pool name))
    ∧ r.Vetted remote pool none (fun pass results =>
        List.Forall₂ (fun e value => r.Comprises remote pool pass e.2 value) pool.records results)
      (r.resolveCollection pool)
    ∧ ∀ url reference requester (pass : Pass U) payload,
      remote.fetch pass.requests url = .ok payload →
      (RemoteResolver.fetched ⟨o, remote⟩ url reference requester pass).1
          = (remote.intake o.mode payload).received (.invalidRemote reference requester
              remote.schema.dtoName (remote.schema.explain remote.registry o.mode payload))
        ∧ remote.intake o.mode payload ≠ .shapeless := by
  intro r
  have start := Pass.Stocked.start r remote pool
  refine ⟨fun v => ?_, fun name => ?_, ?_, ?_⟩
  · obtain ⟨record, outcome, after, rfl, run, eq⟩ | eq := Resolver.resolve_cases r pool v
    · rw [eq]
      have sifted := (run.sifted rfl start (.root record)).comprises
      exact sifted.vetted.imp fun _ _ made => ⟨record, rfl, made⟩
    · rw [eq]
      exact Resolver.vetted_of_silent id
  · obtain ⟨record, outcome, after, found, call, eq⟩ | ⟨-, eq⟩ :=
      Resolver.resolveNamed_cases r pool name
    · rw [eq]
      exact (call.sifted rfl found start).comprises.vetted.imp fun _ _ made => ⟨record, found, made⟩
    · rw [eq]
      exact Resolver.vetted_of_silent id
  · have row := Resolver.row_resolveCollection r pool
    exact (row.sifted rfl (fun e he => Fields.find?_of_mem pool.nodup he) start).vetted
  · intro url reference requester pass payload answered
    rw [Resolver.fetched_eq, answered, Remote.received_ok]
    exact ⟨rfl, remote.intake_ne_shapeless o.mode payload⟩

/-- Why a call fails, if it does. -/
def error? {α : Type} : Except ResolveError α → Option ResolveError
  | .error e => some e
  | .ok _ => none

theorem eq_of_error? {α : Type} {result : Except ResolveError α} {e : ResolveError}
    (h : error? result = some e) : result = .error e := by
  cases result with
  | ok => cases h
  | error cause => exact congrArg Except.error (Option.some.inj h)

namespace Gallery

/-- A document without a name. -/
def nameless : Json := .obj [("extend", .str "div")]

/-- One of the three documents has no name. -/
def faultyRemote : Remote Url where
  registry := remote.registry
  schema := remote.schema
  fetch asked url :=
    if url.text = "https://example.com/app/cell.json" then .ok nameless else remote.fetch asked url

def faulty : Resolver Url := ⟨resolver.options, some faultyRemote⟩

end Gallery

/-- The page in the pool that the document refers to is reached last, before its own document is
refused. -/
theorem only_accepted_faulty :
    let call := Gallery.faulty.resolveCollection Gallery.pool
    let explanation := "property \"name\" is missing; expected string"
    let cell := Gallery.url ["app", "cell.json"]
    call.1 = .error (.invalidRemote "./cell.json" "Grid" "PageDTO" explanation)
      ∧ (∃ record, Gallery.faulty.Standing Gallery.faultyRemote Gallery.pool none call.2 record
        ∧ Gallery.faulty.options.layout.Refers record "./cell.json" "Grid"
        ∧ ∃ url payload, call.2.answers.getLast? = some (url, .ok payload)
          ∧ ¬ Gallery.faultyRemote.Accepts Gallery.faulty.options.mode payload)
      ∧ Gallery.faultyRemote.fetch [] cell = .ok Gallery.nameless
      ∧ (RemoteResolver.fetched ⟨Gallery.resolver.options, Gallery.faultyRemote⟩ cell "./cell.json"
          "Grid" .start).1
        = .error (.invalidRemote "./cell.json" "Grid" "PageDTO" explanation) := by
  intro call explanation cell
  have fails : call.1 = .error (.invalidRemote "./cell.json" "Grid" "PageDTO" explanation) :=
    eq_of_error? (by decide +kernel)
  obtain ⟨-, -, vetted, taken⟩ :=
    only_accepted Gallery.resolver.options Gallery.faultyRemote Gallery.pool
  have answered : Gallery.faultyRemote.fetch [] cell = .ok Gallery.nameless := rfl
  refine ⟨fails, ?_, answered, ?_⟩
  · obtain ⟨record, standing, located⟩ := vetted.blamed _ fails trivial
    generalize he : ResolveError.invalidRemote "./cell.json" "Grid" "PageDTO" explanation = e
      at located
    cases located with
    | invalidRemote refers last refused =>
        obtain ⟨rfl, rfl, -, -⟩ := ResolveError.invalidRemote.inj he
        exact ⟨record, standing, refers, _, _, last, refused⟩
    | _ => cases he
  · exact (taken cell "./cell.json" "Grid" .start Gallery.nameless answered).1

end Dossier
