import Mathlib.Data.List.Chain
import Dossier.Proofs.Chain.Collection
import Dossier.Proofs.Chain.Descent
import Dossier.Proofs.Chain.Walk

/-!
# Chain — what a reported cycle is

A place follows another in a pass when the record found at the one names the other.  A chain closes
when the places under way, each followed by the next, are followed by one more that stands to one of
them in a certain way.

The chain tells its places apart by their keys, which are names for members and texts of URLs for
documents.  So a reported cycle is a chain that closes upon the place itself (`Resolver.Recurs`), or
upon one of the other kind: a member named like the URL of a document (`Resolver.Collides`).

* `Place.key_eq_iff`: two places have the same key when they are one, or are a member and a document
  whose URL is its name.
* `Resolver.Trailed.enter`: entering a place goes one step on in a row of places that follow one
  another.
* `Resolver.Run.returns`: so a run that reports a cycle has come back to a key of such a row.
* `Resolver.Collides.namesake`: a chain closes upon a place of the other kind only with a member
  that is named like a URL, and never with the pool alone.
* `Resolver.cycle_recurs`: every reported cycle recurs, or collides with such a namesake;
  `Resolver.cycle_namesake` is one that does not recur.
-/

namespace Dossier

variable {U : Type} [Urls U]

/-! ### Places of one key -/

namespace Place

/-- The places are one: the same member, or the document of the same URL. -/
def Same : Place U → Place U → Prop
  | .member name _, .member other _ => name = other
  | .document url, .document other => Urls.text url = Urls.text other
  | _, _ => False

/-- One of the places is a member, and the other the document whose URL is its name. -/
def Clashes : Place U → Place U → Prop
  | .member name _, .document url => name = Urls.text url
  | .document url, .member name _ => Urls.text url = name
  | _, _ => False

theorem key_eq_iff (p q : Place U) : p.key = q.key ↔ p.Same q ∨ p.Clashes q := by
  cases p <;> cases q <;> simp [key, Same, Clashes]

end Place

/-- A member of the pool is named like a URL that a reference stands for. -/
def Pool.Namesake (U : Type) [Urls U] (pool : Pool) (name : String) : Prop :=
  pool.contains name = true ∧ ∃ base reference, ∃ url : U,
    Urls.join base reference = .ok url ∧ Urls.text url = name

namespace Resolver

variable {r : Resolver U} {pool : Pool} {levels : Nat} {chain under : List (Place U)}
  {base innerBase : Option U} {record inner : Fields Json} {reference requester : String}
  {names : List String} {pass opened after : Pass U} {place : Place U}

/-! ### Places that follow one another -/

/-- The record found at a place in a pass, and the base of its reference. -/
inductive Stands (r : Resolver U) (pass : Pass U) : Place U → Option U → Fields Json → Prop where
  | member {name : String} {record : Fields Json} :
      Stands r pass (.member name record) r.options.baseUrl record
  /-- A document is the record it was answered with. -/
  | document {url : U} {record : Fields Json}
      (answered : .requested url (.ok (.obj record)) ∈ pass.log) :
      Stands r pass (.document url) (some url) record

/-- A record at a base names a place, whatever may be remembered. -/
inductive Names (r : Resolver U) (pool : Pool) : Option U → Fields Json → Place U → Prop where
  | member {base : Option U} {record inner : Fields Json} {reference : String}
      (refers : r.options.layout.extendOf? record = some reference)
      (found : pool.get? reference = some inner) :
      Names r pool base record (.member reference inner)
  | document {base : Option U} {record : Fields Json} {reference : String} {url : U}
      (refers : r.options.layout.extendOf? record = some reference)
      (outside : pool.get? reference = none) (unlisted : r.options.isBuiltIn reference = false)
      (looks : Reference.isRemote reference = true)
      (located : Urls.join base reference = .ok url) :
      Names r pool base record (.document url)

/-- The record found at one place names the next. -/
def Follows (r : Resolver U) (pool : Pool) (pass : Pass U) (place next : Place U) : Prop :=
  ∃ base record, r.Stands pass place base record ∧ r.Names pool base record next

/-- The names are those of a chain that closes: of the places that were under way last, each
followed by the next, and of one more that follows the last of them, to which one of them stands in
the given way. -/
def Closes (r : Resolver U) (pool : Pool) (again : Place U → Place U → Prop) (pass : Pass U)
    (names : List String) : Prop :=
  ∃ under place, pass.visits.getLast? = some under
    ∧ (under ++ [place]).IsChain (r.Follows pool pass)
    ∧ (∀ p ∈ under ++ [place], r.Aimed pool p)
    ∧ names = (under ++ [place]).map Place.key
    ∧ ∃ earlier ∈ under, again earlier place

/-- The chain comes to a place that is under way. -/
def Recurs (r : Resolver U) (pool : Pool) (pass : Pass U) (names : List String) : Prop :=
  r.Closes pool Place.Same pass names

/-- The chain comes to a member that is named like the URL of a document under way, or to a document
whose URL is the name of a member under way. -/
def Collides (r : Resolver U) (pool : Pool) (pass : Pass U) (names : List String) : Prop :=
  r.Closes pool Place.Clashes pass names

omit [Urls U] in
theorem Stands.mono (h : r.Stands pass place base record) (grows : pass.log ⊆ after.log) :
    r.Stands after place base record := by
  cases h with
  | member => exact .member
  | document answered => exact .document (grows answered)

theorem Follows.mono {next : Place U} (h : r.Follows pool pass place next)
    (grows : pass.log ⊆ after.log) : r.Follows pool after place next := by
  obtain ⟨base, record, stands, names⟩ := h
  exact ⟨base, record, stands.mono grows, names⟩

theorem Aims.named (aims : r.Aims pool pass base reference requester (.ok (.place place)))
    (refers : r.options.layout.extendOf? record = some reference) :
    r.Names pool base record place := by
  cases aims with
  | member new found => exact .member refers found
  | document foreign looks reaches located new =>
      exact .document refers foreign.outside foreign.unlisted looks located

theorem Aimed.found {name : String} (h : r.Aimed pool (.member name record)) :
    pool.get? name = some record := by
  obtain ⟨pass, base, reference, requester, aims⟩ := h
  cases aims with
  | member new found => exact found

theorem Aimed.located {url : U} (h : r.Aimed pool (.document url)) :
    r.remote.isSome = true ∧ ∃ base reference, Urls.join base reference = .ok url := by
  obtain ⟨pass, base, reference, requester, aims⟩ := h
  cases aims with
  | document foreign looks reaches located new =>
      exact ⟨reaches ▸ rfl, base, reference, located⟩

/-- What is found at an opened place is the record it was opened to. -/
theorem Aims.stands (aims : r.Aims pool pass base reference requester (.ok (.place place)))
    {before : Pass U}
    (opens : r.opened place reference requester before = (.ok (inner, innerBase), opened)) :
    r.Stands opened place innerBase inner ∧ before.log ⊆ opened.log := by
  cases aims with
  | member new found =>
      cases opens
      exact ⟨.member, List.Subset.refl _⟩
  | document foreign looks reaches located new =>
      obtain ⟨rfl, -, -, rfl⟩ := answer_of_opened reaches opens
      exact ⟨.document (List.mem_append_right _ (List.mem_singleton.mpr rfl)),
        List.subset_append_left ..⟩

/-! ### Rows of places under way -/

/-- A record has been come to through the places of a chain, each followed by the next. -/
structure Trailed (r : Resolver U) (pool : Pool) (chain : List (Place U)) (base : Option U)
    (record : Fields Json) (pass : Pass U) : Prop where
  links : chain.IsChain (r.Follows pool pass)
  stands : ∀ place ∈ chain.getLast?, r.Stands pass place base record
  aimed : ∀ place ∈ chain, r.Aimed pool place
  entered : chain = [] ∨ pass.visits.getLast? = some chain

/-- A row of places under way has come back to a key. -/
structure Returns (r : Resolver U) (pool : Pool) (pass : Pass U) (names : List String)
    (under : List (Place U)) (place : Place U) : Prop where
  entered : pass.visits.getLast? = some under
  links : (under ++ [place]).IsChain (r.Follows pool pass)
  aimed : ∀ p ∈ under ++ [place], r.Aimed pool p
  names : names = (under ++ [place]).map Place.key
  again : place.key ∈ under.map Place.key

theorem Trailed.links_concat (h : r.Trailed pool chain base record pass)
    (named : r.Names pool base record place) :
    (chain ++ [place]).IsChain (r.Follows pool pass) := by
  refine h.links.append (.singleton place) fun last hl next hn => ?_
  obtain rfl : place = next := Option.some.inj hn
  exact ⟨base, record, h.stands last hl, named⟩

theorem aimed_concat (h : ∀ p ∈ chain, r.Aimed pool p) (aimed : r.Aimed pool place) :
    ∀ p ∈ chain ++ [place], r.Aimed pool p := by
  intro p hp
  rcases List.mem_append.mp hp with hp | hp
  · exact h p hp
  · exact List.mem_singleton.mp hp ▸ aimed

/-- Entering a place that the record names goes one step on. -/
theorem Trailed.enter (h : r.Trailed pool chain base record pass)
    (refers : r.options.layout.extendOf? record = some reference)
    (aims : r.Aims pool pass base reference requester (.ok (.place place)))
    (opens : r.opened place reference requester (pass.note (.entered (chain ++ [place])))
      = (.ok (inner, innerBase), opened)) :
    r.Trailed pool (chain ++ [place]) innerBase inner opened := by
  obtain ⟨stands, grows⟩ := aims.stands opens
  have grown : pass.log ⊆ opened.log := List.Subset.trans (List.subset_append_left ..) grows
  constructor
  · exact (h.links_concat (aims.named refers)).imp fun _ _ link => link.mono grown
  · intro last hl
    rw [List.getLast?_concat] at hl
    cases hl
    exact stands
  · exact aimed_concat h.aimed ⟨_, _, _, _, aims⟩
  · refine .inr ?_
    rw [(aims.log_opened opens).1, Pass.visits_note_entered, List.getLast?_concat]

/-- **A run that reports a cycle has come back** to a key of the places under way. -/
theorem Run.returns {outcome : Except ResolveError (Fields Json)}
    (run : r.Run pool levels chain base record pass outcome after)
    (h : r.Trailed pool chain base record pass) (he : outcome = .error (.cycle names)) :
    ∃ under place, r.Returns pool after names under place := by
  induction run with
  | plain | known | builtIn | tooDeep | merged => cases he
  | astray refers aims =>
      cases he
      cases aims
  | unopened refers aims new opens =>
      cases he
      rcases aims.error_opened opens with ⟨cause, he⟩ | ⟨entity, explanation, he⟩ <;> cases he
  | cycle refers aims again =>
      cases he
      refine ⟨_, _, ?_, h.links_concat (aims.named refers),
        aimed_concat h.aimed ⟨_, _, _, _, aims⟩, by simp, again⟩
      -- a chain that holds the key is not empty
      refine h.entered.resolve_left fun empty => ?_
      rw [empty] at again
      cases again
  | failed refers aims new opens run ih => exact ih (h.enter refers aims opens) he

theorem Returns.recurs_or_collides (h : r.Returns pool pass names under place) :
    r.Recurs pool pass names ∨ r.Collides pool pass names := by
  obtain ⟨earlier, he, hk⟩ := List.mem_map.mp h.again
  obtain same | clash := (Place.key_eq_iff earlier place).mp hk
  · exact .inl ⟨under, place, h.entered, h.links, h.aimed, h.names, earlier, he, same⟩
  · exact .inr ⟨under, place, h.entered, h.links, h.aimed, h.names, earlier, he, clash⟩

theorem Aimed.namesake {name : String} {url : U} (member : r.Aimed pool (.member name inner))
    (document : r.Aimed pool (.document url)) (named : Urls.text url = name) :
    r.remote.isSome = true ∧ pool.Namesake U name := by
  obtain ⟨reaches, base, reference, located⟩ := document.located
  exact ⟨reaches, Pool.contains_of_get? member.found, base, reference, url, located, named⟩

/-- **A chain collides with a namesake**, and only a resolver that can fetch comes to one. -/
theorem Collides.namesake (h : r.Collides pool pass names) :
    r.remote.isSome = true ∧ ∃ name, names.getLast? = some name ∧ pool.Namesake U name := by
  obtain ⟨under, place, -, -, aimed, rfl, earlier, he, clash⟩ := h
  have first := aimed earlier (List.mem_append_left _ he)
  have second := aimed place (List.mem_append_right _ (List.mem_singleton.mpr rfl))
  have named : r.remote.isSome = true ∧ pool.Namesake U place.key := by
    cases earlier with
    | member name inner =>
        cases place with
        | member => exact clash.elim
        | document url =>
            obtain rfl : name = Urls.text url := clash
            exact first.namesake second rfl
    | document url =>
        cases place with
        | member name inner => exact second.namesake first clash
        | document => exact clash.elim
  exact ⟨named.1, place.key, by simp, named.2⟩

/-! ### Calls -/

theorem Run.returns_start {outcome : Except ResolveError (Fields Json)}
    (run : r.Run pool levels [] base record .start outcome after)
    (he : outcome = .error (.cycle names)) :
    ∃ under place, r.Returns pool after names under place :=
  run.returns ⟨.nil, fun _ hl => (nomatch hl), fun _ hp => (nomatch hp), .inl rfl⟩ he

theorem Call.returns {name : String} {outcome : Except ResolveError (Fields Json)}
    (call : r.Call pool name record pass outcome after) (found : pool.get? name = some record)
    (he : outcome = .error (.cycle names)) :
    ∃ under place, r.Returns pool after names under place := by
  cases call with
  | refused => cases he
  | entered deep run =>
      have aimed : r.Aimed pool (.member name record) :=
        ⟨.start, none, name, name, .member rfl found⟩
      refine run.returns ⟨.singleton _, fun last hl => ?_, fun p hp => ?_, .inr ?_⟩ he
      · cases hl
        exact .member
      · exact List.mem_singleton.mp hp ▸ aimed
      · rw [Pass.visits_note_entered, List.getLast?_concat]

/-- **Every reported cycle is a chain that recurs, or collides with a namesake**, whatever the
documents are answered with: a member is come to again while it is being resolved, or a document
while the document of its URL is; and where that is not so, a member is named like the URL of a
document, and one of the two is come to while the other is being resolved. -/
theorem cycle_recurs (r : Resolver U) (pool : Pool) :
    (∀ v names, (r.resolve pool v).1 = .error (.cycle names) →
      r.Recurs pool (r.resolve pool v).2 names ∨ r.Collides pool (r.resolve pool v).2 names)
    ∧ (∀ name names, (r.resolveNamed pool name).1 = .error (.cycle names) →
      r.Recurs pool (r.resolveNamed pool name).2 names
        ∨ r.Collides pool (r.resolveNamed pool name).2 names)
    ∧ (∀ names, (r.resolveCollection pool).1 = .error (.cycle names) →
      r.Recurs pool (r.resolveCollection pool).2 names
        ∨ r.Collides pool (r.resolveCollection pool).2 names)
    ∧ ∀ pass names, r.Collides pool pass names →
      r.remote.isSome = true ∧ ∃ name, names.getLast? = some name ∧ pool.Namesake U name := by
  refine ⟨fun v names h => ?_, fun name names h => ?_, fun names h => ?_,
    fun pass names h => h.namesake⟩
  · obtain ⟨record, outcome, after, -, run, eq⟩ | eq := resolve_cases r pool v <;> rw [eq] at h ⊢
    · obtain ⟨under, place, returns⟩ := run.returns_start (eq_error_of_map h)
      exact returns.recurs_or_collides
    · cases h
  · obtain ⟨record, outcome, after, found, call, eq⟩ | ⟨-, eq⟩ := resolveNamed_cases r pool name
      <;> rw [eq] at h ⊢
    · obtain ⟨under, place, returns⟩ := call.returns found (eq_error_of_map h)
      exact returns.recurs_or_collides
    · cases h
  · obtain ⟨name, record, before, hm, call⟩ := (row_resolveCollection r pool).exists_failed h
    obtain ⟨under, place, returns⟩ := call.returns (Fields.find?_of_mem pool.nodup hm) rfl
    exact returns.recurs_or_collides

end Resolver

/-! ### A cycle, and a clash of names -/

theorem Url.colon_mem_text (url : Url) : ':' ∈ url.text.toList := by
  simp [Url.text]

/-- The names of a reported cycle. -/
def cycle? {α : Type} : Except ResolveError α → Option (List String)
  | .error (.cycle names) => some names
  | _ => none

theorem eq_of_cycle? {α : Type} {result : Except ResolveError α} {names : List String}
    (h : cycle? result = some names) : result = .error (.cycle names) := by
  unfold cycle? at h
  split at h
  · cases h
    rfl
  · cases h

namespace Gallery

/-- A page that two documents lead back to. -/
def ring : Pool where
  records := [("Grid", page "Grid" "./panel.json" "grid")]
  nodup := by simp [Fields.Nodup, Fields.keys]

/-- A page named like the document that it refers to. -/
def namesake : Pool where
  records := [("https://example.com/app/cell.json", page "Own" "./cell.json" "own")]
  nodup := by simp [Fields.Nodup, Fields.keys]

end Gallery

/-- No URL is written as the name that the chain comes back to. -/
theorem Resolver.cycle_recurs_ring :
    (Gallery.resolver.resolveNamed Gallery.ring "Grid").1 = .error (.cycle ["Grid",
        "https://example.com/app/panel.json", "https://example.com/lib/base.json", "Grid"])
      ∧ Gallery.resolver.Recurs Gallery.ring
          (Gallery.resolver.resolveNamed Gallery.ring "Grid").2 ["Grid",
          "https://example.com/app/panel.json", "https://example.com/lib/base.json", "Grid"] := by
  have reported : (Gallery.resolver.resolveNamed Gallery.ring "Grid").1 = .error (.cycle ["Grid",
      "https://example.com/app/panel.json", "https://example.com/lib/base.json", "Grid"]) :=
    eq_of_cycle? (by decide +kernel)
  have ⟨_, named, _, namesake⟩ := Resolver.cycle_recurs Gallery.resolver Gallery.ring
  refine ⟨reported, (named _ _ reported).resolve_right fun collides => ?_⟩
  obtain ⟨-, name, last, -, -, -, url, -, rfl⟩ := namesake _ _ collides
  have written : "Grid" = url.text := Option.some.inj last
  have colon : ':' ∈ "Grid".toList := written ▸ url.colon_mem_text
  exact absurd colon (by decide)

namespace Gallery

/-- The page is under way by its name, and the document it refers to has that name for its URL. -/
theorem resolveNamed_namesake :
    resolver.resolveNamed namesake "https://example.com/app/cell.json"
      = (.error (.cycle ["https://example.com/app/cell.json", "https://example.com/app/cell.json"]),
        Pass.start.note (.entered [.member "https://example.com/app/cell.json"
          (page "Own" "./cell.json" "own")])) := by
  have run : resolver.Run namesake 63
      [.member "https://example.com/app/cell.json" (page "Own" "./cell.json" "own")]
      resolver.options.baseUrl (page "Own" "./cell.json" "own")
      (Pass.start.note (.entered [.member "https://example.com/app/cell.json"
        (page "Own" "./cell.json" "own")])) _ _ :=
    .cycle rfl (.document ⟨rfl, rfl, rfl⟩ (by decide +kernel) rfl rfl rfl) (by decide +kernel)
  have resolved : resolver.resolveNamed namesake "https://example.com/app/cell.json" = _ :=
    congrArg (fun outcome => (outcome.1.map Json.obj, outcome.2)) run.resolveFrom_eq
  rw [resolved]
  rfl

end Gallery

/-- A member that is named like the URL of the document it refers to is reported as a cycle, although
the document is not even asked for. -/
theorem Resolver.cycle_namesake :
    (Gallery.resolver.resolveNamed Gallery.namesake "https://example.com/app/cell.json").1
      = .error (.cycle ["https://example.com/app/cell.json", "https://example.com/app/cell.json"])
    ∧ (Gallery.resolver.resolveNamed Gallery.namesake
        "https://example.com/app/cell.json").2.requests = []
    ∧ ¬ Gallery.resolver.Recurs Gallery.namesake
        (Gallery.resolver.resolveNamed Gallery.namesake "https://example.com/app/cell.json").2
        ["https://example.com/app/cell.json", "https://example.com/app/cell.json"] := by
  rw [Gallery.resolveNamed_namesake]
  refine ⟨rfl, rfl, ?_⟩
  rintro ⟨under, place, entered, links, -, -, earlier, he, same⟩
  -- the member alone is under way, and what its record names is a document
  cases entered
  obtain rfl := List.mem_singleton.mp he
  obtain ⟨base, record, stands, named⟩ := List.isChain_pair.mp links
  cases stands
  cases named with
  | member refers found =>
      cases refers
      cases found
  | document => exact same

end Dossier
