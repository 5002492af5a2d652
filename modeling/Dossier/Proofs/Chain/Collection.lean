import Dossier.Proofs.Chain.Remembered
import Dossier.Proofs.Url.Reading

/-!
# Chain — what a collection remembers makes no difference

The members of a pool are resolved in one pass, in which ancestors and documents are remembered from
one member to the next.

* `Resolver.Run.sound`: a run keeps a sound pass sound.
* `Resolver.Run.fresh`: a run that fails came to nothing that was remembered, so that it fails in
  the same way where nothing is.
* `Resolver.resolveCollection_transparent`: so a collection has the records that the members come to
  on their own, and fails as a member fails on its own.

Documents are remembered by the texts of their URLs, so these must tell the URLs apart
(`Resolver.Faithful`), as they do where URLs are compared by their texts.  Those that `Url.parse`
finds from a well-formed base do (`Resolver.faithful_of_wellFormed`).
-/

namespace Dossier

variable {U : Type} [Urls U]

/-! ### Remembering -/

/-- URLs are told apart by their texts, as far as references may come to be taken against them. -/
def Resolver.Faithful (r : Resolver U) : Prop :=
  ∀ u v, r.Based (some u) → r.Based (some v) → Urls.text u = Urls.text v → u = v

namespace Pass.Sound

variable {r : Resolver U} {pool : Pool} {pass : Pass U} {record result : Fields Json}

theorem remember_member (h : Sound r pool pass) {name : String}
    (found : pool.get? name = some record) (comes : r.Comes pool r.options.baseUrl record result) :
    Sound r pool (pass.remember (.member name record) result) where
  resolved other known hk := by
    simp only [Pass.remember, Fields.find?_insert] at hk
    split at hk
    · next he =>
      cases hk
      exact ⟨record, he ▸ found, comes⟩
    · exact h.resolved other known hk
  fetched := h.fetched

theorem remember_document (h : Sound r pool pass) (hf : r.Faithful) {url : U}
    (based : r.Based (some url)) (reads : r.Reads url record)
    (comes : r.Comes pool (some url) record result) :
    Sound r pool (pass.remember (.document url) result) where
  resolved := h.resolved
  fetched other known ho hk := by
    simp only [Pass.remember, Fields.find?_insert] at hk
    split at hk
    · next he =>
      cases hk
      obtain rfl := hf url other based ho he
      exact ⟨record, reads, comes⟩
    · exact h.fetched other known ho hk

end Pass.Sound

namespace Resolver

variable {r : Resolver U} {pool : Pool} {levels : Nat} {chain : List (Place U)} {base : Option U}
  {record : Fields Json} {reference requester : String} {pass after : Pass U}
  {outcome : Except ResolveError (Fields Json)}

/-- Remembering what an opened place comes to keeps a pass sound. -/
theorem Aims.remember {place : Place U} {before : Pass U} {inner ancestor : Fields Json}
    {innerBase : Option U} {opened : Pass U}
    (aims : r.Aims pool pass base reference requester (.ok (.place place))) (hs : r.Steady)
    (hf : ∀ remote, r.remote = some remote → r.Faithful) (hb : r.Based base)
    (opens : r.opened place reference requester before = (.ok (inner, innerBase), opened))
    (h : Pass.Sound r pool after) (comes : r.Comes pool innerBase inner ancestor) :
    Pass.Sound r pool (after.remember place ancestor) := by
  cases aims with
  | member new found =>
      cases opens
      exact h.remember_member found comes
  | document foreign looks reaches located new =>
      obtain ⟨rfl, reads⟩ := reads_of_opened hs reaches opens
      exact h.remember_document (hf _ reaches) (.document hb located) reads comes

/-- **A run keeps a sound pass sound.** -/
theorem Run.sound (run : r.Run pool levels chain base record pass outcome after) (hs : r.Steady)
    (hf : ∀ remote, r.remote = some remote → r.Faithful) (hb : r.Based base)
    (h : Pass.Sound r pool pass) : Pass.Sound r pool after := by
  induction run with
  | plain | astray | known | builtIn | cycle | tooDeep => exact h
  | unopened refers aims new opens => exact (h.note _).opened opens
  | failed refers aims new opens run ih =>
      exact ih ((aims.leads hs refers opens).based hb) ((h.note _).opened opens)
  | merged refers aims new opens run ih =>
      have innerBased := (aims.leads hs refers opens).based hb
      have opened := (h.note _).opened opens
      exact aims.remember hs hf hb opens (ih innerBased opened) (run.comes hs opened innerBased rfl)

/-! ### Failures -/

/-- Nothing is remembered. -/
structure Blank (pass : Pass U) : Prop where
  resolved : pass.resolved = []
  fetched : pass.fetched = []

omit [Urls U] in
theorem Blank.note (h : Blank pass) (e : Event U) : Blank (pass.note e) := ⟨h.resolved, h.fetched⟩

omit [Urls U] in
theorem Blank.opened {place : Place U} {found : Except ResolveError (Fields Json × Option U)}
    {opened : Pass U}
    (h : Blank pass) (opens : r.opened place reference requester pass = (found, opened)) :
    Blank opened := by
  obtain ⟨resolved, fetched⟩ := tables_of_opened opens
  exact ⟨resolved.trans h.resolved, fetched.trans h.fetched⟩

omit [Urls U] in
/-- Opening a place yields the same whatever was asked for before. -/
theorem exists_opened {place : Place U} {found : Except ResolveError (Fields Json × Option U)}
    {opened : Pass U} (hs : r.Steady)
    (opens : r.opened place reference requester pass = (found, opened)) (before : Pass U) :
    ∃ last, r.opened place reference requester before = (found, last) := by
  cases place with
  | member name record =>
      cases opens
      exact ⟨before, rfl⟩
  | document url =>
      cases hr : r.remote with
      | none =>
          simp only [Resolver.opened, hr] at opens ⊢
          cases opens
          exact ⟨before, rfl⟩
      | some remote =>
          rw [opened_document hr] at opens ⊢
          rw [hs remote hr before.requests pass.requests url]
          cases opens
          exact ⟨_, rfl⟩

/-- What a reference leads to without a memory, it leads to where nothing is remembered. -/
theorem Aims.fresh {aim : Except ResolveError (Target U)} {blank : Pass U} (hb : Blank blank)
    (aims : r.Aims pool pass base reference requester aim)
    (unknown : ∀ ancestor, aim ≠ .ok (.known ancestor)) :
    r.Aims pool blank base reference requester aim := by
  have new : Fields.find? blank.resolved reference = none := by
    rw [hb.resolved]
    rfl
  cases aims with
  | remembered | fetched => exact absurd rfl (unknown _)
  | member _ found => exact .member new found
  | builtIn _ outside listed => exact .builtIn new outside listed
  | missing foreign looks => exact .missing ⟨new, foreign.outside, foreign.unlisted⟩ looks
  | unsupported foreign looks alone =>
      exact .unsupported ⟨new, foreign.outside, foreign.unlisted⟩ looks alone
  | invalid foreign looks reaches located =>
      exact .invalid ⟨new, foreign.outside, foreign.unlisted⟩ looks reaches located
  | document foreign looks reaches located =>
      refine .document ⟨new, foreign.outside, foreign.unlisted⟩ looks reaches located ?_
      rw [hb.fetched]
      rfl

/-- **A run that fails fails in the same way where nothing is remembered.** -/
theorem Run.fresh (run : r.Run pool levels chain base record pass outcome after) (hs : r.Steady)
    {e : ResolveError} (he : outcome = .error e) {blank : Pass U} (hb : Blank blank) :
    ∃ last, r.Run pool levels chain base record blank (.error e) last := by
  induction run generalizing blank e with
  | plain | known | builtIn | merged => cases he
  | astray refers aims =>
      cases he
      exact ⟨_, .astray refers (aims.fresh hb fun _ h => nomatch h)⟩
  | cycle refers aims again =>
      cases he
      exact ⟨_, .cycle refers (aims.fresh hb fun _ h => nomatch h) again⟩
  | tooDeep refers aims new =>
      cases he
      exact ⟨_, .tooDeep refers (aims.fresh hb fun _ h => nomatch h) new⟩
  | unopened refers aims new opens =>
      cases he
      obtain ⟨last, opens'⟩ := exists_opened hs opens (blank.note (.entered _))
      exact ⟨last, .unopened refers (aims.fresh hb fun _ h => nomatch h) new opens'⟩
  | failed refers aims new opens run ih =>
      cases he
      obtain ⟨entered, opens'⟩ := exists_opened hs opens (blank.note (.entered _))
      obtain ⟨last, run'⟩ := ih rfl ((hb.note _).opened opens')
      exact ⟨last, .failed refers (aims.fresh hb fun _ h => nomatch h) new opens' run'⟩

/-! ### Members -/

section

variable {name : String}

/-- A member that fails in a pass fails in the same way on its own. -/
theorem Call.fresh (call : r.Call pool name record pass outcome after) (hs : r.Steady)
    {e : ResolveError} (he : outcome = .error e) :
    ∃ last, r.Call pool name record .start (.error e) last := by
  cases call with
  | refused flat =>
      cases he
      exact ⟨_, .refused flat⟩
  | entered deep run =>
      have blank : Blank (Pass.start.note (.entered [(.member name record : Place U)])) := ⟨rfl, rfl⟩
      obtain ⟨last, run⟩ := run.fresh hs he blank
      exact ⟨last, .entered deep run⟩

theorem Turn.fresh (turn : r.Turn pool name record pass outcome after) (hs : r.Steady)
    {e : ResolveError} (he : outcome = .error e) :
    ∃ last, r.Call pool name record .start (.error e) last := by
  cases turn with
  | known | resolved => cases he
  | failed new call => exact call.fresh hs he

theorem Call.sound (call : r.Call pool name record pass outcome after) (hs : r.Steady)
    (hf : ∀ remote, r.remote = some remote → r.Faithful) (h : Pass.Sound r pool pass) :
    Pass.Sound r pool after := by
  cases call with
  | refused => exact h
  | entered deep run => exact run.sound hs hf .options (h.note _)

/-- A member whose turn succeeds comes to its record, and keeps the pass sound. -/
theorem Turn.comes (turn : r.Turn pool name record pass outcome after) (hs : r.Steady)
    (hf : ∀ remote, r.remote = some remote → r.Faithful) (h : Pass.Sound r pool pass)
    (found : pool.get? name = some record) {result : Fields Json} (ho : outcome = .ok result) :
    r.Comes pool r.options.baseUrl record result ∧ Pass.Sound r pool after := by
  cases turn with
  | known known =>
      cases ho
      obtain ⟨member, found', comes⟩ := h.resolved _ _ known
      cases found.symm.trans found'
      exact ⟨comes, h⟩
  | failed => cases ho
  | resolved new call =>
      cases ho
      have comes := call.comes hs h rfl
      exact ⟨comes, (call.sound hs hf h).remember_member found comes⟩

end

theorem resolveMember_of_resolveOnce {name : String} {e : ResolveError} (hs : r.Steady)
    (h : (r.resolveOnce pool name record pass).1 = .error e) :
    (r.resolveMember pool name record .start).1 = .error e := by
  obtain ⟨last, call⟩ := (turn_resolveOnce r pool name record pass).fresh hs h
  exact congrArg Prod.fst call.resolveMember_eq

theorem resolveNamed_fst {name : String} (hm : pool.get? name = some record) :
    (r.resolveNamed pool name).1
      = (r.resolveMember pool name record .start).1.map .obj := by
  rw [resolveNamed_def, hm]

/-! ### Collections -/

/-- Where the members given are resolved on their own, a row of them in a sound pass comes out as
what they come to. -/
theorem Row.eq_ok_of_named {records : List (String × Fields Json)}
    {outcome : Except ResolveError (List Json)} (row : r.Row pool records pass outcome after)
    (hs : r.Steady) (hf : ∀ remote, r.remote = some remote → r.Faithful)
    (hm : ∀ e ∈ records, pool.get? e.1 = some e.2) (h : Pass.Sound r pool pass)
    {results : List Json} (hr : records.map (fun e => (r.resolveNamed pool e.1).1) = results.map .ok) :
    outcome = .ok results := by
  induction row generalizing results with
  | nil =>
      obtain rfl := List.map_eq_nil_iff.mp hr.symm
      rfl
  | stopped turn =>
      obtain ⟨v, others, rfl, hv, -⟩ := List.map_eq_cons_iff.mp hr.symm
      obtain ⟨record, own, found, hown, -⟩ := exists_of_resolveNamed hv.symm
      cases (hm _ (List.mem_cons_self ..)).symm.trans found
      obtain ⟨last, call⟩ := turn.fresh hs rfl
      cases hown.symm.trans (congrArg Prod.fst call.resolveMember_eq)
  | failed turn row ih =>
      obtain ⟨v, others, rfl, -, hothers⟩ := List.map_eq_cons_iff.mp hr.symm
      have sound := (turn.comes hs hf h (hm _ (List.mem_cons_self ..)) rfl).2
      cases ih (fun e he => hm e (List.mem_cons_of_mem _ he)) sound hothers.symm
  | cons turn row ih =>
      obtain ⟨v, others, rfl, hv, hothers⟩ := List.map_eq_cons_iff.mp hr.symm
      have found := hm _ (List.mem_cons_self ..)
      obtain ⟨comes, sound⟩ := turn.comes hs hf h found rfl
      -- on its own the member comes to the first of the results
      obtain ⟨record, own, found', hown, rfl⟩ := exists_of_resolveNamed hv.symm
      cases found.symm.trans found'
      obtain rfl := comes.unique (comes_of_resolveMember hs (Pass.sound_start r pool) hown)
      cases ih (fun e he => hm e (List.mem_cons_of_mem _ he)) sound hothers.symm
      rfl

theorem resolveEach_of_named (hs : r.Steady) (hf : ∀ remote, r.remote = some remote → r.Faithful)
    {records : List (String × Fields Json)} (hm : ∀ e ∈ records, pool.get? e.1 = some e.2)
    (h : Pass.Sound r pool pass) {results : List Json}
    (hr : records.map (fun e => (r.resolveNamed pool e.1).1) = results.map .ok) :
    (r.resolveEach pool records pass).1 = .ok results :=
  (row_resolveEach r pool records pass).eq_ok_of_named hs hf hm h hr

/-- A row of members stops at one of them: those before it are resolved in the pass, and it is
not. -/
def StopsAt (r : Resolver U) (pool : Pool) (records : List (String × Fields Json)) (pass : Pass U)
    (name : String) (e : ResolveError) : Prop :=
  ∃ before record after results last, records = before ++ (name, record) :: after
    ∧ r.resolveEach pool before pass = (.ok results, last)
    ∧ (r.resolveOnce pool name record last).1 = .error e

theorem Row.exists_stopsAt {records : List (String × Fields Json)}
    {outcome : Except ResolveError (List Json)} (row : r.Row pool records pass outcome after)
    {e : ResolveError} (he : outcome = .error e) : ∃ name, r.StopsAt pool records pass name e := by
  induction row with
  | nil | cons => cases he
  | @stopped name record rest pass after cause turn =>
      cases he
      have none : r.resolveEach pool [] pass = (.ok [], pass) := resolveEach_nil ..
      exact ⟨name, [], record, rest, [], pass, rfl, none, congrArg Prod.fst turn.resolveOnce_eq⟩
  | @failed name record result rest pass after last cause turn row ih =>
      obtain ⟨stop, before, stopped, others, results, last, rfl, hbefore, hstop⟩ := ih he
      refine ⟨stop, (name, record) :: before, stopped, others, .obj result :: results, last, rfl,
        ?_, hstop⟩
      rw [resolveEach_cons, turn.resolveOnce_eq]
      simp only [hbefore]

theorem exists_stopsAt {records : List (String × Fields Json)} {e : ResolveError}
    (h : (r.resolveEach pool records pass).1 = .error e) :
    ∃ name, r.StopsAt pool records pass name e :=
  (row_resolveEach r pool records pass).exists_stopsAt h

end Resolver

/-- **What a collection remembers makes no difference.**  If every member of a pool is resolved on
its own, the collection is what they come to, in the order of the pool; and if the collection fails,
the member it stops at fails on its own, and in the same way.  Where documents can be fetched, they
must not change while they are read, and the texts of URLs must tell them apart. -/
theorem Resolver.resolveCollection_transparent (r : Resolver U) (pool : Pool) (hs : r.Steady)
    (hf : ∀ remote, r.remote = some remote → r.Faithful) :
    (∀ results, pool.names.map (fun name => (r.resolveNamed pool name).1) = results.map .ok →
      (r.resolveCollection pool).1 = .ok results) ∧
    ∀ e, (r.resolveCollection pool).1 = .error e →
      ∃ name, r.StopsAt pool pool.records .start name e
        ∧ (r.resolveNamed pool name).1 = .error e := by
  have found : ∀ entry ∈ pool.records, pool.get? entry.1 = some entry.2 :=
    fun entry hm => Fields.find?_of_mem pool.nodup hm
  constructor
  · intro results hr
    rw [Pool.names, Fields.keys, List.map_map] at hr
    rw [resolveCollection_def]
    exact resolveEach_of_named hs hf found (Pass.sound_start r pool) hr
  · intro e he
    rw [resolveCollection_def] at he
    obtain ⟨name, stops⟩ := exists_stopsAt he
    refine ⟨name, stops, ?_⟩
    obtain ⟨before, record, after, results, last, hrecords, -, hstop⟩ := stops
    have member : (name, record) ∈ pool.records := by
      rw [hrecords]
      exact List.mem_append_right _ (List.mem_cons_self ..)
    rw [resolveNamed_fst (found _ member), resolveMember_of_resolveOnce hs hstop]
    rfl

/-! ### The bases of a chain that changes its base -/

namespace Resolver

variable {r : Resolver Url} {base : Option Url}

theorem Based.wellFormed (hw : ∀ start, r.options.baseUrl = some start → start.WellFormed)
    (hb : r.Based base) : ∀ url, base = some url → url.WellFormed := by
  induction hb with
  | options => exact hw
  | document based located ih =>
      rintro url ⟨⟩
      exact Url.wellFormed_of_parse ih located

/-- Well-formed URLs have different texts, and so have all that are found from them. -/
theorem faithful_of_wellFormed
    (hw : ∀ start, r.options.baseUrl = some start → start.WellFormed) : r.Faithful :=
  fun u v hu hv => Url.text_injective (hu.wellFormed hw u rfl) (hv.wellFormed hw v rfl)

end Resolver

namespace Gallery

theorem wellFormed_url {segments : List String}
    (h : ∀ s ∈ segments, UrlPath.IsSegment .web s) : (url segments).WellFormed where
  scheme := show Avoids "https".toList [':'] by decide
  authority a ha := by
    cases ha
    exact ⟨⟨.nil _, fun _ hp => (nomatch hp), by decide, fun _ => by decide⟩, segments, rfl⟩
  bare hn := nomatch hn
  path := h
  query _ hq := nomatch hq

theorem faithful : resolver.Faithful := by
  refine Resolver.faithful_of_wellFormed fun start hb => ?_
  cases hb
  refine wellFormed_url fun s hs => ⟨?_, fun ho => nomatch ho⟩
  revert s
  decide

theorem resolveNamed_eq (name : String) {record result : Fields Json}
    (found : pool.get? name = some record)
    (comes : resolver.Comes pool (url ["app", "main.json"]) record result)
    (resolved : (resolver.resolveNamed pool name).1.isOk = true) :
    (resolver.resolveNamed pool name).1 = .ok (.obj result) := by
  cases hr : (resolver.resolveNamed pool name).1 with
  | error e =>
      rw [hr] at resolved
      cases resolved
  | ok v =>
      obtain ⟨record', own, found', hown, rfl⟩ := Resolver.exists_of_resolveNamed hr
      cases found.symm.trans found'
      have alone := Resolver.comes_of_resolveMember steady (Pass.sound_start resolver pool) hown
      rw [comes.unique alone]

/-- The pages and one more, whose document is not there. -/
def tornPool : Pool := pool.insert "Lost" (page "Lost" "./lost.json" "lost")

end Gallery

theorem Resolver.resolveCollection_transparent_gallery :
    Gallery.resolver.Steady
      ∧ Gallery.resolver.Faithful
      ∧ (Gallery.resolver.resolveCollection Gallery.pool).1 = .ok
        [.obj [("name", .str "div"), ("content", .arr
            [.str "cell", .str "grid", .str "base", .str "panel", .str "hero"])],
          .obj [("name", .str "div"), ("content", .arr [.str "cell", .str "grid"])]]
      ∧ ∃ name e, (Gallery.resolver.resolveCollection Gallery.tornPool).1 = .error e
        ∧ (Gallery.resolver.resolveNamed Gallery.tornPool name).1 = .error e := by
  refine ⟨Gallery.steady, Gallery.faithful, ?_, ?_⟩
  · have hero :=
      Gallery.resolveNamed_eq "Hero" rfl ⟨_, _, Gallery.ancestry_hero, rfl⟩ (by decide +kernel)
    have grid :=
      Gallery.resolveNamed_eq "Grid" rfl ⟨_, _, Gallery.ancestry_grid, rfl⟩ (by decide +kernel)
    -- the second member is an ancestor of the first
    refine (resolveCollection_transparent Gallery.resolver Gallery.pool Gallery.steady
      fun _ _ => Gallery.faithful).1 _ ?_
    show [(Gallery.resolver.resolveNamed Gallery.pool "Hero").1,
      (Gallery.resolver.resolveNamed Gallery.pool "Grid").1] = _
    rw [hero, grid]
    rfl
  · cases hr : (Gallery.resolver.resolveCollection Gallery.tornPool).1 with
    | ok results =>
        have failed : (Gallery.resolver.resolveCollection Gallery.tornPool).1.isOk = false := by
          decide +kernel
        rw [hr] at failed
        cases failed
    | error e =>
        obtain ⟨name, -, alone⟩ := (resolveCollection_transparent Gallery.resolver
          Gallery.tornPool Gallery.steady fun _ _ => Gallery.faithful).2 e hr
        exact ⟨name, e, rfl, alone⟩

end Dossier
