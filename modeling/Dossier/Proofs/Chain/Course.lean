import Dossier.Proofs.Chain.Descent
import Dossier.Proofs.Chain.Kept
import Dossier.Proofs.Chain.Walk

/-!
# Chain — entering and leaving

Here the chain under way is kept beside the pass: a place is entered before it is resolved and left
after it, whether that succeeds or fails, and a record merged onto its ancestor is resolved once
more, with neither the chain nor the levels to hold it back.  `LocalResolver.pursue` and
`RemoteResolver.pursue` say so in as many words, and say nothing of an end: each is the least
function with its equation, and none where that equation never comes to a result.

* `Resolver.chain_of_pursue`: whatever the course, a call that comes to an end leaves the chain as
  it was.
* `Resolver.Aims.pursue_eq`: either resolver goes where its reference leads.
* `Resolver.Run.pursues`: where what is remembered refers to nothing but built-ins, every call comes
  to the end of the run on the levels that are left; and so do the members of a collection, which
  share a pass (`Resolver.Row.pursues`).
* `Resolver.resolution_ends`: so every call ends as it is resolved, within the depth of the options
  and, with the pool alone, the size of the pool.
-/

namespace Dossier

variable {U : Type} [Urls U]

/-! ### Courses -/

/-- A pass together with the chain under way. -/
structure Course (U : Type) where
  chain : List (Place U)
  pass : Pass U

/-- A result together with the course after it. -/
abbrev Arrival (U α : Type) := Except ResolveError α × Course U

namespace Course

def start : Course U := ⟨[], .start⟩

/-- Enters a place, which must be new and must not be one too many. -/
def enter (o : Options U) (place : Place U) (requester : String) (c : Course U) :
    Except ResolveError (Course U) :=
  if place.key ∈ c.chain.map Place.key then
    .error (.cycle (c.chain.map Place.key ++ [place.key]))
  else if o.maxDepth ≤ c.chain.length then
    .error (.tooDeep place.key requester o.maxDepth)
  else .ok ⟨c.chain ++ [place], c.pass.note (.entered (c.chain ++ [place]))⟩

/-- Leaves the place entered last. -/
def leave (c : Course U) : Course U := ⟨c.chain.dropLast, c.pass⟩

/-- Keeps what the record of a place was resolved to. -/
def remember (c : Course U) (place : Place U) (record : Fields Json) : Course U :=
  ⟨c.chain, c.pass.remember place record⟩

variable {o : Options U} {chain : List (Place U)} {pass : Pass U} {place : Place U}
  {requester : String}

theorem enter_of_mem (h : place.key ∈ chain.map Place.key) :
    enter o place requester ⟨chain, pass⟩
      = .error (.cycle (chain.map Place.key ++ [place.key])) :=
  if_pos h

theorem enter_of_le (hn : place.key ∉ chain.map Place.key) (h : o.maxDepth ≤ chain.length) :
    enter o place requester ⟨chain, pass⟩
      = .error (.tooDeep place.key requester o.maxDepth) :=
  (if_neg hn).trans (if_pos h)

theorem enter_of_lt (hn : place.key ∉ chain.map Place.key) (h : chain.length < o.maxDepth) :
    enter o place requester ⟨chain, pass⟩
      = .ok ⟨chain ++ [place], pass.note (.entered (chain ++ [place]))⟩ :=
  (if_neg hn).trans (if_neg (Nat.not_le.mpr h))

/-- Leaving undoes entering. -/
theorem dropLast_of_enter {c entered : Course U} (h : c.enter o place requester = .ok entered) :
    entered.chain.dropLast = c.chain := by
  unfold enter at h
  split at h
  · cases h
  · split at h
    · cases h
    · cases h
      exact List.dropLast_concat

omit [Urls U] in
/-- A place that has been entered is left after the call on it, whether it goes on from there or
not. -/
theorem visit_cases {c : Course U} {call : Option (Arrival U (Fields Json))}
    {next : Fields Json → Course U → Option (Arrival U (Fields Json))}
    {found : Arrival U (Fields Json)} (entry : chain.dropLast = c.chain)
    (inner : ∀ visited, call = some visited → visited.2.chain = chain)
    (h : (call.bind fun
      | (.error e, back) => some (.error e, back.leave)
      | (.ok ancestor, back) => next ancestor back) = some found) :
    found.2.chain = c.chain
      ∨ ∃ ancestor back, back.leave.chain = c.chain ∧ next ancestor back = some found := by
  obtain ⟨⟨result, back⟩, hback, h⟩ := Option.bind_eq_some_iff.mp h
  have left : back.leave.chain = c.chain := (congrArg List.dropLast (inner _ hback)).trans entry
  cases result with
  | error e =>
      cases h
      exact .inl left
  | ok ancestor => exact .inr ⟨ancestor, back, left, h⟩

end Course

/-! ### With the pool alone -/

namespace LocalResolver

/-- Resolves a record as its references are met. -/
def pursue (r : LocalResolver U) (pool : Pool) (record : Fields Json) (c : Course U) :
    Option (Arrival U (Fields Json)) :=
  -- the calls on the way start from the course as it then is
  let resume := fun c => r.pursue pool (c := c)
  match r.options.layout.extendOf? record with
  | none => some (.ok record, c)
  | some reference =>
    let requester := r.options.layout.requester record
    match Fields.find? c.pass.resolved reference with
    | some ancestor => resume c (r.options.layout.mergeOnto ancestor record)
    | none =>
      match pool.get? reference with
      | some inner =>
        let place := Place.member reference inner
        match c.enter r.options place requester with
        | .error e => some (.error e, c)
        | .ok entered => do
          match ← resume entered inner with
          | (.error e, back) => some (.error e, back.leave)
          | (.ok ancestor, back) =>
            resume (back.leave.remember place ancestor)
              (r.options.layout.mergeOnto ancestor record)
      | none =>
        if r.options.isBuiltIn reference then
          some (.ok (r.options.layout.terminal reference record), c)
        else if Reference.isRemote reference then
          some (.error (.remoteUnsupported reference requester), c)
        else some (.error (.missing reference requester), c)
partial_fixpoint

theorem chain_of_pursue {r : LocalResolver U} {pool : Pool} {record : Fields Json}
    {c last : Course U} {outcome : Except ResolveError (Fields Json)}
    (h : r.pursue pool record c = some (outcome, last)) : last.chain = c.chain := by
  refine pursue.partial_correctness r pool (fun _ c found => found.2.chain = c.chain) ?_
    record c (outcome, last) h
  intro pursue ih record c found h
  split at h
  · cases h
    rfl
  · dsimp only at h
    split at h
    · exact ih _ _ _ h
    · split at h
      · split at h
        · cases h
          rfl
        · next entered entry =>
          obtain left | ⟨ancestor, back, left, h⟩ :=
            Course.visit_cases (Course.dropLast_of_enter entry) (ih _ _) h
          · exact left
          · exact (ih _ _ _ h).trans left
      · split at h
        · cases h
          rfl
        · split at h <;> cases h <;> rfl

end LocalResolver

/-! ### With documents -/

namespace RemoteResolver

/-- Resolves a record as its references are met, which are relative to the base. -/
def pursue (r : RemoteResolver U) (pool : Pool) (base : Option U) (record : Fields Json)
    (c : Course U) : Option (Arrival U (Fields Json)) :=
  let resume := fun c => r.pursue pool (c := c)
  match r.options.layout.extendOf? record with
  | none => some (.ok record, c)
  | some reference =>
    let requester := r.options.layout.requester record
    match Fields.find? c.pass.resolved reference with
    | some ancestor => resume c base (r.options.layout.mergeOnto ancestor record)
    | none =>
      match pool.get? reference with
      | some inner =>
        let place := Place.member reference inner
        match c.enter r.options place requester with
        | .error e => some (.error e, c)
        | .ok entered => do
          match ← resume entered r.options.baseUrl inner with
          | (.error e, back) => some (.error e, back.leave)
          | (.ok ancestor, back) =>
            resume (back.leave.remember place ancestor) base
              (r.options.layout.mergeOnto ancestor record)
      | none =>
        if r.options.isBuiltIn reference then
          some (.ok (r.options.layout.terminal reference record), c)
        else if Reference.isRemote reference then
          match Urls.join base reference with
          | .error cause => some (.error (.invalidUrl reference requester cause), c)
          | .ok url =>
            match Fields.find? c.pass.fetched (Urls.text url) with
            | some ancestor => resume c base (r.options.layout.mergeOnto ancestor record)
            | none =>
              let place := Place.document url
              match c.enter r.options place requester with
              | .error e => some (.error e, c)
              | .ok entered =>
                match r.fetched url reference requester entered.pass with
                | (.error e, pass) => some (.error e, Course.leave ⟨entered.chain, pass⟩)
                | (.ok inner, pass) => do
                  match ← resume ⟨entered.chain, pass⟩ (some url) inner with
                  | (.error e, back) => some (.error e, back.leave)
                  | (.ok ancestor, back) =>
                    resume (back.leave.remember place ancestor) base
                      (r.options.layout.mergeOnto ancestor record)
        else some (.error (.missing reference requester), c)
partial_fixpoint

theorem chain_of_pursue {r : RemoteResolver U} {pool : Pool} {base : Option U}
    {record : Fields Json} {c last : Course U} {outcome : Except ResolveError (Fields Json)}
    (h : r.pursue pool base record c = some (outcome, last)) : last.chain = c.chain := by
  refine pursue.partial_correctness r pool (fun _ _ c found => found.2.chain = c.chain) ?_
    base record c (outcome, last) h
  intro pursue ih base record c found h
  split at h
  · cases h
    rfl
  · dsimp only at h
    split at h
    · exact ih _ _ _ _ h
    · split at h
      · split at h
        · cases h
          rfl
        · next entered entry =>
          obtain left | ⟨ancestor, back, left, h⟩ :=
            Course.visit_cases (Course.dropLast_of_enter entry) (ih _ _ _) h
          · exact left
          · exact (ih _ _ _ _ h).trans left
      · split at h
        · cases h
          rfl
        · split at h
          · split at h
            · cases h
              rfl
            · next url located =>
              split at h
              · exact ih _ _ _ _ h
              · split at h
                · cases h
                  rfl
                · next entered entry =>
                  have entry := Course.dropLast_of_enter entry
                  split at h
                  · cases h
                    exact entry
                  · next inner pass fetches =>
                    obtain left | ⟨ancestor, back, left, h⟩ :=
                      Course.visit_cases entry (ih (some url) inner ⟨entered.chain, pass⟩) h
                    · exact left
                    · exact (ih _ _ _ _ h).trans left
          · cases h
            rfl

end RemoteResolver

/-! ### Either resolver -/

namespace Resolver

/-- Resolves a record as its references are met. -/
def pursue (r : Resolver U) (pool : Pool) (base : Option U) (record : Fields Json) (c : Course U) :
    Option (Arrival U (Fields Json)) :=
  match r.remote with
  | none => LocalResolver.pursue ⟨r.options⟩ pool record c
  | some remote => RemoteResolver.pursue ⟨r.options, remote⟩ pool base record c

/-- What a record comes to when its reference leads to the target, or nowhere. -/
def follow (r : Resolver U) (pool : Pool) (base : Option U) (record : Fields Json)
    (reference : String) (c : Course U) :
    Except ResolveError (Target U) → Option (Arrival U (Fields Json))
  | .error e => some (.error e, c)
  | .ok .builtIn => some (.ok (r.options.layout.terminal reference record), c)
  | .ok (.known ancestor) => r.pursue pool base (r.options.layout.mergeOnto ancestor record) c
  | .ok (.place place) =>
    match c.enter r.options place (r.options.layout.requester record) with
    | .error e => some (.error e, c)
    | .ok entered =>
      match r.opened place reference (r.options.layout.requester record) entered.pass with
      | (.error e, pass) => some (.error e, Course.leave ⟨entered.chain, pass⟩)
      | (.ok (inner, innerBase), pass) => do
        match ← r.pursue pool innerBase inner ⟨entered.chain, pass⟩ with
        | (.error e, back) => some (.error e, back.leave)
        | (.ok ancestor, back) =>
          r.pursue pool base (r.options.layout.mergeOnto ancestor record)
            (back.leave.remember place ancestor)

end Resolver

section

variable {o : Options U} {remote : Remote U} {pool : Pool} {base : Option U} {record : Fields Json}
  {reference : String} {c : Course U} {aim : Except ResolveError (Target U)}

theorem LocalResolver.pursue_eq (refers : o.layout.extendOf? record = some reference)
    (aims : Resolver.Aims ⟨o, none⟩ pool c.pass base reference (o.layout.requester record) aim) :
    LocalResolver.pursue ⟨o⟩ pool record c
      = Resolver.follow ⟨o, none⟩ pool base record reference c aim := by
  rw [pursue.eq_def]
  cases aims with
  | remembered known =>
      simp only [refers, known]
      rfl
  | member new found =>
      simp only [refers, new, found]
      rfl
  | builtIn new outside listed =>
      simp only [refers, new, outside, listed, if_true]
      rfl
  | missing foreign looks | unsupported foreign looks =>
      simp [refers, foreign.new, foreign.outside, foreign.unlisted, looks, Resolver.follow]
  | invalid foreign looks reaches | fetched foreign looks reaches
  | document foreign looks reaches => cases reaches

theorem RemoteResolver.pursue_eq (refers : o.layout.extendOf? record = some reference)
    (aims : Resolver.Aims ⟨o, some remote⟩ pool c.pass base reference (o.layout.requester record)
      aim) :
    RemoteResolver.pursue ⟨o, remote⟩ pool base record c
      = Resolver.follow ⟨o, some remote⟩ pool base record reference c aim := by
  rw [pursue.eq_def]
  cases aims with
  | remembered known =>
      simp only [refers, known]
      rfl
  | member new found =>
      simp only [refers, new, found]
      rfl
  | builtIn new outside listed =>
      simp only [refers, new, outside, listed, if_true]
      rfl
  | missing foreign looks =>
      simp [refers, foreign.new, foreign.outside, foreign.unlisted, looks, Resolver.follow]
  | unsupported foreign looks alone => cases alone
  | invalid foreign looks reaches located =>
      simp [refers, foreign.new, foreign.outside, foreign.unlisted, looks, located, Resolver.follow]
  | fetched foreign looks reaches located known =>
      simp [refers, foreign.new, foreign.outside, foreign.unlisted, looks, located, known,
        Resolver.follow, Resolver.pursue]
  | @document _ url foreign looks reaches located new =>
      cases entry : c.enter o (.document url) (o.layout.requester record) with
      | error e =>
          simp [refers, foreign.new, foreign.outside, foreign.unlisted, looks, located, new, entry,
            Resolver.follow]
      | ok entered =>
          cases fetches : RemoteResolver.fetched ⟨o, remote⟩ url reference (o.layout.requester record)
              entered.pass with
          | mk answer pass =>
              cases answer <;>
                simp [refers, foreign.new, foreign.outside, foreign.unlisted, looks, located, new,
                  entry, fetches, Resolver.follow, Resolver.opened, Resolver.pursue]

end

namespace Resolver

/-- Resolves a pool member, which is entered first and left in the end. -/
def pursueMember (r : Resolver U) (pool : Pool) (name : String) (record : Fields Json)
    (c : Course U) : Option (Arrival U (Fields Json)) :=
  match c.enter r.options (.member name record) name with
  | .error e => some (.error e, c)
  | .ok entered =>
    (r.pursue pool r.options.baseUrl record entered).map fun (outcome, back) =>
      (outcome, back.leave)

/-- A pool member resolved, once in the course. -/
def pursueOnce (r : Resolver U) (pool : Pool) (name : String) (record : Fields Json)
    (c : Course U) : Option (Arrival U (Fields Json)) :=
  match Fields.find? c.pass.resolved name with
  | some known => some (.ok known, c)
  | none => do
    match ← r.pursueMember pool name record c with
    | (.error e, c) => some (.error e, c)
    | (.ok result, c) => some (.ok result, c.remember (.member name record) result)

/-- The given members resolved one after the other. -/
def pursueEach (r : Resolver U) (pool : Pool) :
    List (String × Fields Json) → Course U → Option (Arrival U (List Json))
  | [], c => some (.ok [], c)
  | (name, record) :: rest, c => do
    match ← r.pursueOnce pool name record c with
    | (.error e, c) => some (.error e, c)
    | (.ok result, c) =>
      match ← r.pursueEach pool rest c with
      | (.error e, c) => some (.error e, c)
      | (.ok results, c) => some (.ok (.obj result :: results), c)

variable {r : Resolver U} {pool : Pool} {levels : Nat} {chain : List (Place U)} {base : Option U}
  {record : Fields Json} {name reference : String} {pass after : Pass U} {c : Course U}
  {outcome : Except ResolveError (Fields Json)}

/-- **A call leaves the chain as it found it**, whether it succeeds or fails, and whatever the chain
and what is remembered. -/
theorem chain_of_pursue {last : Course U} (h : r.pursue pool base record c = some (outcome, last)) :
    last.chain = c.chain := by
  obtain ⟨o, _ | remote⟩ := r
  · exact LocalResolver.chain_of_pursue h
  · exact RemoteResolver.chain_of_pursue h

theorem pursue_of_plain (refers : r.options.layout.extendOf? record = none) :
    r.pursue pool base record c = some (.ok record, c) := by
  obtain ⟨o, _ | remote⟩ := r
  · exact (LocalResolver.pursue.eq_def ..).trans (by simp only [refers])
  · exact (RemoteResolver.pursue.eq_def ..).trans (by simp only [refers])

/-- **Either resolver goes where its reference leads.** -/
theorem Aims.pursue_eq {aim : Except ResolveError (Target U)}
    (aims : r.Aims pool pass base reference (r.options.layout.requester record) aim)
    (refers : r.options.layout.extendOf? record = some reference) :
    r.pursue pool base record ⟨chain, pass⟩
      = r.follow pool base record reference ⟨chain, pass⟩ aim := by
  obtain ⟨o, _ | remote⟩ := r
  · exact LocalResolver.pursue_eq refers aims
  · exact RemoteResolver.pursue_eq refers aims

/-! ### The end -/

/-- A record merged onto one that refers to no more than a built-in comes to an end at once. -/
theorem pursue_mergeOnto {ancestor : Fields Json} {P : Fields Json → Prop}
    (hs : r.Settled pool ancestor) (hk : Pass.Keeps pool P pass) (chain : List (Place U))
    (base : Option U) (record : Fields Json) :
    r.pursue pool base (r.options.layout.mergeOnto ancestor record) ⟨chain, pass⟩
      = some (.ok (r.options.layout.merged ancestor record), ⟨chain, pass⟩) := by
  cases hr : r.options.layout.extendOf? (r.options.layout.mergeOnto ancestor record) with
  | none =>
      rw [pursue_of_plain hr]
      simp only [Layout.merged, hr]
  | some reference =>
      obtain ⟨outside, listed⟩ := hs reference (Layout.extendOf?_of_mergeOnto hr)
      have new : Fields.find? pass.resolved reference = none := by
        refine Option.eq_none_iff_forall_ne_some.mpr fun result known => ?_
        have member := (hk.members reference result known).1
        rw [Pool.contains_eq_false_iff.mpr outside] at member
        cases member
      rw [(Aims.builtIn new outside listed).pursue_eq hr]
      simp only [follow, Layout.merged, hr]

/-- **Every call comes to an end**, which is that of the run on the levels that are left. -/
theorem Run.pursues (run : r.Run pool levels chain base record pass outcome after)
    (h : Pass.Keeps pool (r.Settled pool) pass)
    (hl : chain.length + levels = r.options.maxDepth) :
    r.pursue pool base record ⟨chain, pass⟩ = some (outcome, ⟨chain, after⟩) := by
  induction run with
  | plain refers => exact pursue_of_plain refers
  | astray refers aims | builtIn refers aims => exact aims.pursue_eq refers
  | known refers aims =>
      rw [aims.pursue_eq refers]
      exact pursue_mergeOnto (aims.known h) h _ _ _
  | cycle refers aims again =>
      rw [aims.pursue_eq refers]
      simp only [follow, Course.enter_of_mem again]
  | tooDeep refers aims new =>
      rw [aims.pursue_eq refers]
      simp only [follow, Course.enter_of_le new (Nat.le_of_eq hl.symm)]
  | unopened refers aims new opens =>
      have room := Nat.lt_of_lt_of_eq (Nat.lt_add_of_pos_right (Nat.succ_pos _)) hl
      rw [aims.pursue_eq refers]
      simp only [follow, Course.enter_of_lt new room, opens, Course.leave, List.dropLast_concat]
  | failed refers aims new opens run ih =>
      have room := Nat.lt_of_lt_of_eq (Nat.lt_add_of_pos_right (Nat.succ_pos _)) hl
      have inner := ih ((h.note _).opened opens) (by simpa using by omega)
      rw [aims.pursue_eq refers]
      simp only [follow, Course.enter_of_lt new room, opens, inner, Course.leave,
        List.dropLast_concat, Option.bind_eq_bind, Option.bind_some]
  | merged refers aims new opens run ih =>
      have room := Nat.lt_of_lt_of_eq (Nat.lt_add_of_pos_right (Nat.succ_pos _)) hl
      have opened := (h.note _).opened opens
      have inner := ih opened (by simpa using by omega)
      obtain ⟨kept, settled⟩ := run.keeps (upholds_settled r pool) opened
      rw [aims.pursue_eq refers]
      simp only [follow, Course.enter_of_lt new room, opens, inner, Course.leave,
        List.dropLast_concat, Option.bind_eq_bind, Option.bind_some]
      exact pursue_mergeOnto (settled _ rfl) (aims.keeps kept (settled _ rfl)) _ _ _

/-- A member comes to an end, with no place entered any more, in whatever pass. -/
theorem Call.pursues (call : r.Call pool name record pass outcome after)
    (h : Pass.Keeps pool (r.Settled pool) pass) :
    r.pursueMember pool name record ⟨[], pass⟩ = some (outcome, ⟨[], after⟩) := by
  have new : (.member name record : Place U).key ∉ ([] : List (Place U)).map Place.key :=
    List.not_mem_nil
  unfold pursueMember
  cases call with
  | refused flat =>
      have refused : Course.enter r.options (.member name record) name ⟨[], pass⟩
          = .error (.tooDeep name name r.options.maxDepth) :=
        Course.enter_of_le new (Nat.le_of_eq flat)
      simp only [refused, flat]
  | @entered levels _ _ deep run =>
      have entered : Course.enter r.options (.member name record) name ⟨[], pass⟩
          = .ok ⟨[.member name record], pass.note (.entered [.member name record])⟩ :=
        Course.enter_of_lt new (Nat.lt_of_lt_of_eq levels.succ_pos deep.symm)
      have resolved := run.pursues (h.note _) ((Nat.add_comm 1 levels).trans deep.symm)
      simp only [entered, resolved]
      rfl

theorem Turn.pursues (turn : r.Turn pool name record pass outcome after)
    (h : Pass.Keeps pool (r.Settled pool) pass) :
    r.pursueOnce pool name record ⟨[], pass⟩ = some (outcome, ⟨[], after⟩) := by
  unfold pursueOnce
  cases turn with
  | known known => simp only [known]
  | failed new call | resolved new call =>
      simp only [new, call.pursues h]
      rfl

/-- The members of a row come to an end one after the other, in one pass. -/
theorem Row.pursues {records : List (String × Fields Json)}
    {outcome : Except ResolveError (List Json)} (row : r.Row pool records pass outcome after)
    (found : ∀ e ∈ records, pool.contains e.1 = true) (h : Pass.Keeps pool (r.Settled pool) pass) :
    r.pursueEach pool records ⟨[], pass⟩ = some (outcome, ⟨[], after⟩) := by
  induction row with
  | nil => rfl
  | stopped turn =>
      rw [pursueEach, turn.pursues h]
      rfl
  | failed turn row ih | cons turn row ih =>
      have kept := (turn.keeps (found _ (List.mem_cons_self ..)) (upholds_settled r pool) h).1
      have rest := ih (fun e he => found e (List.mem_cons_of_mem _ he)) kept
      rw [pursueEach, turn.pursues h]
      simp only [Option.bind_eq_bind, Option.bind_some, rest]

/-- **Resolving always comes to an end and keeps its chain sound.**  A call that comes to an end
leaves the chain as it found it, whether it succeeds or fails; every call does come to an end, which
is the one it is resolved to, and so do the members of a pool in the pass they share; and no chain on
the way has a place twice or more places than the depth allows, nor are more documents asked for than
that, nor, with the pool alone, more members entered than the pool has. -/
theorem resolution_ends (r : Resolver U) (pool : Pool) :
    (∀ base record c outcome last,
      r.pursue pool base record c = some (outcome, last) → last.chain = c.chain)
    ∧ (∀ record, r.pursue pool r.options.baseUrl record .start
      = some ((r.resolveRecord pool record .start).1, ⟨[], (r.resolveRecord pool record .start).2⟩))
    ∧ (∀ name record, r.pursueMember pool name record .start
      = some ((r.resolveMember pool name record .start).1,
          ⟨[], (r.resolveMember pool name record .start).2⟩))
    ∧ r.pursueEach pool pool.records .start
      = some ((r.resolveCollection pool).1, ⟨[], (r.resolveCollection pool).2⟩)
    ∧ (∀ v, r.Within pool (r.resolve pool v).2)
    ∧ ∀ name, r.Within pool (r.resolveNamed pool name).2 := by
  have start := Pass.Keeps.start (U := U) pool (r.Settled pool)
  refine ⟨fun base record c outcome last h => chain_of_pursue h, fun record => ?_,
    fun name record => (call_resolveMember r pool name record .start).pursues start,
    (row_resolveCollection r pool).pursues (fun e he => ?_) start, fun v => ?_, fun name => ?_⟩
  · rw [resolveRecord_def]
    exact (run_resolveFrom ..).pursues start (Nat.zero_add _)
  · exact (Fields.contains_iff_mem ..).mpr (List.mem_map_of_mem he)
  · obtain ⟨further, h⟩ := descends_resolve r pool v
    exact h.within
  · obtain ⟨further, h⟩ := descends_resolveNamed r pool name
    exact h.within

/-- Once round the circle, with the first member entered already. -/
theorem resolution_ends_circle :
    let r : Resolver Url := Options.standard.resolver
    let record : Fields Json := [("name", .str "A"), ("extend", .str "B")]
    let chain : List (Place Url) := [.member "A" record]
    (∃ last, r.pursue circle none record ⟨chain, Pass.start.note (.entered chain)⟩
        = some (.error (.cycle ["A", "B", "C", "A"]), last)
      ∧ last.chain = chain)
    ∧ (r.resolveNamed circle "A").2.visits.length = 3
    ∧ r.Within circle (r.resolveNamed circle "A").2 := by
  intro r record chain
  have ends := resolution_ends r circle
  have run := run_resolveFrom r circle 63 chain none record (Pass.start.note (.entered chain))
  have round := run.pursues ((Pass.Keeps.start ..).note _) rfl
  exact ⟨⟨_, round, ends.1 _ _ _ _ _ round⟩, rfl, ends.2.2.2.2.2 "A"⟩

end Resolver

end Dossier
