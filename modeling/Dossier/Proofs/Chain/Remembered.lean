import Dossier.Proofs.Chain.Ancestry
import Dossier.Proofs.Chain.Calls
import Dossier.Url.Parse

/-!
# Chain — what a pass remembers

A pass remembers members by their names and documents by the texts of their URLs.  `Pass.Sound` says
that each of them is what its record comes to at its own base, whatever chain and depth it was
resolved in.

* `Resolver.Run.comes`: by induction on a run in a sound pass, a record that is resolved is what it
  comes to at its base.
* `Resolver.resolve_ancestry`: in a regular layout a record or a member that is resolved is the
  records of its walk merged from the last one back to the first.

The documents must not change while they are read (`Resolver.Steady`).
-/

namespace Dossier

variable {U : Type} [Urls U]

/-- The answers depend on the URL alone, and not on what was asked for before. -/
def Remote.Steady (remote : Remote U) : Prop :=
  ∀ asked earlier url, remote.fetch asked url = remote.fetch earlier url

/-! ### References of merged records -/

namespace Layout

variable {l : Layout} {ancestor child : Fields Json} {reference : String}

theorem find?_of_extendOf? (h : l.extendOf? child = some reference) :
    Fields.find? child l.extend = some (.str reference) := by
  obtain ⟨v, hv, hs⟩ := Option.bind_eq_some_iff.mp h
  cases v with
  | str s =>
      cases hs
      exact hv
  | _ => cases hs

/-- A merged record has no reference but its ancestor's. -/
theorem extendOf?_of_mergeOnto (h : l.extendOf? (l.mergeOnto ancestor child) = some reference) :
    l.extendOf? ancestor = some reference := by
  by_cases he : l.extend = l.content
  · -- content is an array if it is there at all
    rw [extendOf?, he, find?_mergeOnto_content] at h
    split at h <;> cases h
  · rw [extendOf?, find?_mergeOnto_of_ne he,
      find?_mergeFields_of_reserved (.inr (.inl rfl))] at h
    exact h

/-- A record reduced to the built-in it refers to has no other reference left. -/
theorem eq_of_extendOf?_terminal {other : String} (h : l.extendOf? child = some reference)
    (ht : l.extendOf? (l.terminal reference child) = some other) : reference = other := by
  have hf := find?_of_extendOf? ht
  rw [terminal, find?_copyFields, find?_of_extendOf? h] at hf
  split at hf
  · cases hf
    rfl
  · simp only [Fields.find?] at hf
    split at hf <;> cases hf
    rfl

end Layout

namespace Resolver

/-- The documents, if any can be fetched, do not change. -/
def Steady (r : Resolver U) : Prop := ∀ remote, r.remote = some remote → remote.Steady

/-- A base that references may come to be taken against. -/
inductive Based (r : Resolver U) : Option U → Prop where
  | options : Based r r.options.baseUrl
  | document {base : Option U} {reference : String} {url : U} (based : Based r base)
      (located : Urls.join base reference = .ok url) : Based r (some url)

end Resolver

/-- What is remembered is what the records come to. -/
structure Pass.Sound (r : Resolver U) (pool : Pool) (pass : Pass U) : Prop where
  resolved : ∀ name result, Fields.find? pass.resolved name = some result →
    ∃ record, pool.get? name = some record ∧ r.Comes pool r.options.baseUrl record result
  fetched : ∀ url result, r.Based (some url) →
    Fields.find? pass.fetched (Urls.text url) = some result →
    ∃ record, r.Reads url record ∧ r.Comes pool (some url) record result

theorem Pass.sound_start (r : Resolver U) (pool : Pool) : Pass.Sound r pool .start where
  resolved _ _ h := nomatch h
  fetched _ _ _ h := nomatch h

theorem Pass.Sound.note {r : Resolver U} {pool : Pool} {pass : Pass U} (h : Pass.Sound r pool pass)
    (e : Event U) : Pass.Sound r pool (pass.note e) :=
  ⟨h.resolved, h.fetched⟩

theorem Pass.Sound.opened {r : Resolver U} {pool : Pool} {place : Place U}
    {reference requester : String} {pass opened : Pass U}
    {found : Except ResolveError (Fields Json × Option U)} (h : Pass.Sound r pool pass)
    (opens : r.opened place reference requester pass = (found, opened)) :
    Pass.Sound r pool opened := by
  obtain ⟨resolved, fetched⟩ := Resolver.tables_of_opened opens
  exact ⟨resolved ▸ h.resolved, fetched ▸ h.fetched⟩

namespace Resolver

variable {r : Resolver U} {pool : Pool} {levels : Nat} {chain : List (Place U)} {base : Option U}
  {record : Fields Json} {reference requester : String} {pass opened after : Pass U}

/-! ### One level -/

theorem Leads.based {inner : Fields Json} {innerBase : Option U}
    (leads : r.Leads pool base record innerBase inner) (hb : r.Based base) : r.Based innerBase := by
  cases leads with
  | member => exact .options
  | document refers outside unlisted looks located reads => exact .document hb located

omit [Urls U] in
/-- A document that is opened is its record, at its own URL. -/
theorem reads_of_opened {remote : Remote U} {url : U} {before : Pass U} {inner : Fields Json}
    {innerBase : Option U} (hs : r.Steady) (reaches : r.remote = some remote)
    (opens : r.opened (.document url) reference requester before
      = (.ok (inner, innerBase), opened)) : innerBase = some url ∧ r.Reads url inner := by
  obtain ⟨rfl, answer, accepted, -⟩ := answer_of_opened reaches opens
  exact ⟨rfl, remote, reaches, fun asked => (hs remote reaches asked _ url).trans answer, accepted⟩

/-- A place that is opened is the next step of the walk. -/
theorem Aims.leads {place : Place U} {before : Pass U} {inner : Fields Json} {innerBase : Option U}
    (aims : r.Aims pool pass base reference requester (.ok (.place place))) (hs : r.Steady)
    (refers : r.options.layout.extendOf? record = some reference)
    (opens : r.opened place reference requester before = (.ok (inner, innerBase), opened)) :
    r.Leads pool base record innerBase inner := by
  cases aims with
  | member new found =>
      cases opens
      exact .member refers found
  | document foreign looks reaches located new =>
      obtain ⟨rfl, reads⟩ := reads_of_opened hs reaches opens
      exact .document refers foreign.outside foreign.unlisted looks located reads

/-- A record merged onto an ancestor that is remembered is what it comes to. -/
theorem Aims.comes {ancestor : Fields Json}
    (aims : r.Aims pool pass base reference requester (.ok (.known ancestor)))
    (h : Pass.Sound r pool pass) (hb : r.Based base)
    (refers : r.options.layout.extendOf? record = some reference) :
    r.Comes pool base record (r.options.layout.merged ancestor record) := by
  cases aims with
  | remembered known =>
      obtain ⟨inner, found, comes⟩ := h.resolved _ _ known
      exact .child (.member refers found) comes
  | @fetched remote url _ foreign looks reaches located known =>
      obtain ⟨inner, reads, comes⟩ := h.fetched url _ (.document hb located) known
      exact .child (.document refers foreign.outside foreign.unlisted looks located reads) comes

/-! ### Runs -/

/-- **A record that is resolved in a sound pass is what it comes to** at its base. -/
theorem Run.comes {outcome : Except ResolveError (Fields Json)}
    (run : r.Run pool levels chain base record pass outcome after) (hs : r.Steady)
    (h : Pass.Sound r pool pass) (hb : r.Based base) {result : Fields Json}
    (ok : outcome = .ok result) : r.Comes pool base record result := by
  induction run generalizing result with
  | plain refers =>
      cases ok
      exact ⟨_, [], .plain refers, rfl⟩
  | builtIn refers aims =>
      cases ok
      cases aims with
      | builtIn new outside listed => exact ⟨_, [], .builtIn refers outside listed, rfl⟩
  | known refers aims =>
      cases ok
      exact aims.comes h hb refers
  | astray | cycle | tooDeep | unopened | failed => cases ok
  | merged refers aims new opens run ih =>
      cases ok
      have leads := aims.leads hs refers opens
      have inner := ih ((h.note _).opened opens) (leads.based hb) rfl
      exact .child leads inner

/-! ### Merged records -/

/-- The record refers to nothing, or to a built-in that is not a member. -/
def Settled (r : Resolver U) (pool : Pool) (record : Fields Json) : Prop :=
  ∀ reference, r.options.layout.extendOf? record = some reference →
    pool.get? reference = none ∧ r.options.isBuiltIn reference = true

omit [Urls U] in
theorem settled_merged {ancestor : Fields Json} (h : r.Settled pool ancestor)
    (record : Fields Json) : r.Settled pool (r.options.layout.merged ancestor record) := by
  intro reference hr
  simp only [Layout.merged] at hr
  split at hr
  · next own ho =>
    -- the record is reduced once more to the built-in that its ancestor names
    obtain rfl := Layout.eq_of_extendOf?_terminal ho hr
    exact h own (Layout.extendOf?_of_mergeOnto ho)
  · next hn => cases hn.symm.trans hr

theorem Ancestry.settled_root {root : Fields Json} {children : List (Fields Json)}
    (h : r.Ancestry pool base record root children) : r.Settled pool root := by
  induction h with
  | plain refers => exact fun reference hr => nomatch refers.symm.trans hr
  | builtIn refers outside listed =>
      intro reference hr
      obtain rfl := Layout.eq_of_extendOf?_terminal refers hr
      exact ⟨outside, listed⟩
  | child leads ancestry ih => exact ih

theorem Comes.settled {result : Fields Json} (h : r.Comes pool base record result) :
    r.Settled pool result := by
  obtain ⟨root, children, ancestry, rfl⟩ := h
  have settled := ancestry.settled_root
  clear ancestry
  induction children generalizing root with
  | nil => exact settled
  | cons child rest ih => exact ih (r.options.layout.merged root child) (settled_merged settled child)

/-! ### Calls -/

theorem comes_of_resolveRecord {result : Fields Json} (hs : r.Steady)
    (h : (r.resolveRecord pool record .start).1 = .ok result) :
    r.Comes pool r.options.baseUrl record result := by
  rw [resolveRecord_def] at h
  exact (run_resolveFrom r pool _ _ _ _ _).comes hs (Pass.sound_start r pool) .options h

theorem Call.comes {name : String} {outcome : Except ResolveError (Fields Json)}
    {result : Fields Json} (call : r.Call pool name record pass outcome after) (hs : r.Steady)
    (hp : Pass.Sound r pool pass) (ho : outcome = .ok result) :
    r.Comes pool r.options.baseUrl record result := by
  cases call with
  | refused => cases ho
  | entered deep run => exact run.comes hs (hp.note _) .options ho

theorem comes_of_resolveMember {name : String} {result : Fields Json} (hs : r.Steady)
    (hp : Pass.Sound r pool pass) (h : (r.resolveMember pool name record pass).1 = .ok result) :
    r.Comes pool r.options.baseUrl record result :=
  (call_resolveMember r pool name record pass).comes hs hp h

/-- The walk from a record ends and there is no other, and its records merged from the last one back
to the first are the result. -/
def MergesAncestry (r : Resolver U) (pool : Pool) (record : Fields Json) (result : Json) : Prop :=
  ∃ root children, r.Ancestry pool r.options.baseUrl record root children
    ∧ result = .obj (r.options.layout.mergeAll root children)
    ∧ ∀ other others, r.Ancestry pool r.options.baseUrl record other others →
      other = root ∧ others = children

theorem Comes.mergesAncestry {result : Fields Json} (hl : r.options.layout.Regular)
    (h : r.Comes pool r.options.baseUrl record result) :
    r.MergesAncestry pool record (.obj result) := by
  obtain ⟨root, children, ancestry, rfl⟩ := h
  refine ⟨root, children, ancestry, ?_, fun other others h => h.unique ancestry⟩
  exact congrArg Json.obj (mergedAll_eq_mergeAll hl (ancestry.extendOf?_root hl) children)

/-- **A record that is resolved is the records of its walk merged** from the last one back to the
first, where references are followed from the base of the record they stand in. -/
theorem resolve_ancestry (r : Resolver U) (pool : Pool) (hl : r.options.layout.Regular)
    (hs : r.Steady) :
    (∀ v result, (r.resolve pool v).1 = .ok result →
      ∃ record, v = .obj record ∧ r.MergesAncestry pool record result)
    ∧ ∀ name result, (r.resolveNamed pool name).1 = .ok result →
      ∃ record, pool.get? name = some record ∧ r.MergesAncestry pool record result := by
  constructor
  · intro v result h
    obtain ⟨record, own, rfl, hown, rfl⟩ := exists_of_resolve h
    exact ⟨record, rfl, (comes_of_resolveRecord hs hown).mergesAncestry hl⟩
  · intro name result h
    obtain ⟨record, own, found, hown, rfl⟩ := exists_of_resolveNamed h
    have comes := comes_of_resolveMember hs (Pass.sound_start r pool) hown
    exact ⟨record, found, comes.mergesAncestry hl⟩

end Resolver

/-! ### A chain that changes its base -/

namespace Gallery

/-- The URL of a path on one host. -/
def url (segments : List String) : Url :=
  ⟨"https", some ⟨"", none, .name "example.com", none⟩, .listed segments, none, none⟩

/-- A page with one item of content. -/
def page (name extend item : String) : Fields Json :=
  [("name", .str name), ("extend", .str extend), ("content", .arr [.str item])]

/-- Three documents in two folders, one of which refers to the pool. -/
def remote : Remote Url where
  registry := .empty
  schema := .mk 0 "Page" [.mk "name" [.string] false, .mk "extend" [.string, .absent] false,
    .mk "content" [.json, .absent] true]
  fetch _ url :=
    if url.text = "https://example.com/app/panel.json" then
      .ok (.obj (page "Panel" "../lib/base.json" "panel"))
    else if url.text = "https://example.com/lib/base.json" then
      .ok (.obj (page "Base" "Grid" "base"))
    else if url.text = "https://example.com/app/cell.json" then
      .ok (.obj (page "Cell" "div" "cell"))
    else .error (.status url.text 404)

/-- Two pages whose references are relative to the base of the options. -/
def pool : Pool where
  records :=
    [("Hero", page "Hero" "./panel.json" "hero"), ("Grid", page "Grid" "./cell.json" "grid")]
  nodup := by simp [Fields.Nodup, Fields.keys]

def resolver : Resolver Url where
  options := { Options.standard (U := Url) with
    builtIns := ["div"], baseUrl := url ["app", "main.json"] }
  remote := remote

theorem steady : resolver.Steady := by
  intro remote h
  cases h
  exact fun asked earlier url => rfl

theorem ancestry_grid :
    resolver.Ancestry pool (url ["app", "main.json"]) (page "Grid" "./cell.json" "grid")
      (Layout.standard.terminal "div" (page "Cell" "div" "cell"))
      [page "Grid" "./cell.json" "grid"] :=
  .child (.document rfl rfl rfl (by decide +kernel) rfl ⟨_, rfl, fun _ => rfl, rfl⟩)
    (.builtIn rfl rfl rfl)

/-- A page in the pool is at the base of the options again, although a document refers to it. -/
theorem ancestry_hero :
    resolver.Ancestry pool (url ["app", "main.json"]) (page "Hero" "./panel.json" "hero")
      (Layout.standard.terminal "div" (page "Cell" "div" "cell"))
      [page "Grid" "./cell.json" "grid", page "Base" "Grid" "base",
        page "Panel" "../lib/base.json" "panel", page "Hero" "./panel.json" "hero"] :=
  .child (.document rfl rfl rfl (by decide +kernel) rfl ⟨_, rfl, fun _ => rfl, rfl⟩)
    (.child (.document rfl rfl rfl (by decide +kernel) rfl ⟨_, rfl, fun _ => rfl, rfl⟩)
      (.child (.member rfl rfl) ancestry_grid))

end Gallery

theorem Resolver.resolve_ancestry_hero :
    Gallery.resolver.options.layout.Regular ∧ Gallery.resolver.Steady
      ∧ (Gallery.resolver.resolveNamed Gallery.pool "Hero").1
        = .ok (.obj [("name", .str "div"), ("content", .arr
          [.str "cell", .str "grid", .str "base", .str "panel", .str "hero"])]) := by
  have regular : Gallery.resolver.options.layout.Regular := Layout.standard_regular
  refine ⟨regular, Gallery.steady, ?_⟩
  cases hr : (Gallery.resolver.resolveNamed Gallery.pool "Hero").1 with
  | error e =>
      have resolved : (Gallery.resolver.resolveNamed Gallery.pool "Hero").1.isOk = true := by
        decide +kernel
      rw [hr] at resolved
      cases resolved
  | ok result =>
      obtain ⟨record, found, root, children, -, rfl, only⟩ :=
        (resolve_ancestry Gallery.resolver Gallery.pool regular Gallery.steady).2 "Hero" result hr
      cases found
      obtain ⟨rfl, rfl⟩ := only _ _ Gallery.ancestry_hero
      rfl

end Dossier
