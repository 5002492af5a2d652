import Dossier.Proofs.Chain.Intake

/-!
# Chain — what resolved records are put together of

* `Resolver.Assembled`: a record is put together of members, built-ins and documents that were
  answered in a pass and accepted.
* `Pass.Stocked`: so is all that the pass remembers, and all documents so far have been accepted.
* `Resolver.Aims.assembled`: a record merged onto one that is remembered is put together so too.
-/

namespace Dossier

variable {U : Type} [Urls U]

namespace Resolver

/-! ### Records -/

variable {r : Resolver U} {remote : Remote U} {pool : Pool} {base innerBase : Option U}
  {record inner : Fields Json} {place : Place U}
  {answers others : List (U × Except FetchError Json)}

/-- A record at a base draws on the record of a place, which is a member or a document that was
answered and accepted. -/
inductive Draws (r : Resolver U) (remote : Remote U) (pool : Pool)
    (answers : List (U × Except FetchError Json)) :
    Option U → Fields Json → Place U → Option U → Fields Json → Prop where
  | member {base : Option U} {record inner : Fields Json} {reference : String}
      (refers : r.options.layout.extendOf? record = some reference)
      (found : pool.get? reference = some inner) :
      Draws r remote pool answers base record (.member reference inner) r.options.baseUrl inner
  | document {base : Option U} {record inner : Fields Json} {reference : String}
      {named url : U} (refers : r.options.layout.extendOf? record = some reference)
      (outside : pool.get? reference = none) (unlisted : r.options.isBuiltIn reference = false)
      (looks : Reference.isRemote reference = true)
      (located : Urls.join base reference = .ok named) (same : Urls.text url = Urls.text named)
      (answered : (url, .ok (.obj inner)) ∈ answers)
      (accepted : remote.Accepts r.options.mode (.obj inner)) :
      Draws r remote pool answers base record (.document url) (some url) inner

/-- A result is put together of the record, members, built-ins and accepted documents. -/
inductive Assembled (r : Resolver U) (remote : Remote U) (pool : Pool)
    (answers : List (U × Except FetchError Json)) :
    Option U → Fields Json → Fields Json → Prop where
  | plain {base : Option U} {record : Fields Json}
      (refers : r.options.layout.extendOf? record = none) :
      Assembled r remote pool answers base record record
  | builtIn {base : Option U} {record : Fields Json} {reference : String}
      (refers : r.options.layout.extendOf? record = some reference)
      (outside : pool.get? reference = none) (listed : r.options.isBuiltIn reference = true) :
      Assembled r remote pool answers base record (r.options.layout.terminal reference record)
  | child {base innerBase : Option U} {record inner ancestor : Fields Json} {place : Place U}
      (draws : Draws r remote pool answers base record place innerBase inner)
      (rest : Assembled r remote pool answers innerBase inner ancestor) :
      Assembled r remote pool answers base record (r.options.layout.merged ancestor record)

theorem Draws.mono (h : r.Draws remote pool answers base record place innerBase inner)
    (more : answers ⊆ others) : r.Draws remote pool others base record place innerBase inner := by
  cases h with
  | member refers found => exact .member refers found
  | document refers outside unlisted looks located same answered accepted =>
      exact .document refers outside unlisted looks located same (more answered) accepted

theorem Assembled.mono {result : Fields Json}
    (h : r.Assembled remote pool answers base record result) (more : answers ⊆ others) :
    r.Assembled remote pool others base record result := by
  induction h with
  | plain refers => exact .plain refers
  | builtIn refers outside listed => exact .builtIn refers outside listed
  | child draws rest ih => exact .child (draws.mono more) ih

end Resolver

/-! ### Passes -/

/-- All documents so far have been accepted, and what is remembered is put together of them. -/
structure Pass.Stocked (r : Resolver U) (remote : Remote U) (pool : Pool) (pass : Pass U) : Prop where
  cleared : remote.Cleared r.options.mode pass.answers
  resolved : ∀ name known, Fields.find? pass.resolved name = some known →
    ∃ inner, pool.get? name = some inner
      ∧ r.Assembled remote pool pass.answers r.options.baseUrl inner known
  fetched : ∀ text known, Fields.find? pass.fetched text = some known →
    ∃ url inner, Urls.text url = text ∧ (url, .ok (.obj inner)) ∈ pass.answers
      ∧ r.Assembled remote pool pass.answers (some url) inner known

namespace Pass.Stocked

variable {r : Resolver U} {remote : Remote U} {pool : Pool} {pass after : Pass U}
  {inner ancestor : Fields Json}

theorem start (r : Resolver U) (remote : Remote U) (pool : Pool) : Stocked r remote pool .start where
  cleared := .nil
  resolved _ _ h := nomatch h
  fetched _ _ h := nomatch h

/-- The tables may stay as they are while more documents are accepted. -/
theorem more (h : Stocked r remote pool pass) (resolved : after.resolved = pass.resolved)
    (fetched : after.fetched = pass.fetched) (grows : pass.answers ⊆ after.answers)
    (cleared : remote.Cleared r.options.mode after.answers) : Stocked r remote pool after where
  cleared := cleared
  resolved name known hk := by
    obtain ⟨inner, found, made⟩ := h.resolved name known (resolved ▸ hk)
    exact ⟨inner, found, made.mono grows⟩
  fetched text known hk := by
    obtain ⟨url, inner, same, answered, made⟩ := h.fetched text known (fetched ▸ hk)
    exact ⟨url, inner, same, grows answered, made.mono grows⟩

theorem enter (h : Stocked r remote pool pass) (chain : List (Place U)) :
    Stocked r remote pool (pass.note (.entered chain)) := by
  refine h.more rfl rfl ?_ ?_
  · rw [answers_note_entered]
    exact List.Subset.refl _
  · rw [answers_note_entered]
    exact h.cleared

theorem ask (h : Stocked r remote pool pass) {url : U}
    (answered : remote.fetch pass.requests url = .ok (.obj inner))
    (accepted : remote.Accepts r.options.mode (.obj inner)) :
    Stocked r remote pool (pass.note (.requested url (.ok (.obj inner)))) := by
  rw [← map_fst_answers] at answered
  refine h.more rfl rfl ?_ ?_
  · rw [answers_note_requested]
    exact List.subset_append_left ..
  · rw [answers_note_requested]
    exact h.cleared.ask answered accepted

theorem remember_member (h : Stocked r remote pool pass) {name : String}
    (found : pool.get? name = some inner)
    (made : r.Assembled remote pool pass.answers r.options.baseUrl inner ancestor) :
    Stocked r remote pool (pass.remember (.member name inner) ancestor) where
  cleared := h.cleared
  resolved other known hk := by
    simp only [Pass.remember, Fields.find?_insert] at hk
    split at hk
    · next he =>
      cases hk
      exact ⟨inner, he ▸ found, made⟩
    · exact h.resolved other known hk
  fetched := h.fetched

theorem remember_document (h : Stocked r remote pool pass) {url : U}
    (answered : (url, .ok (.obj inner)) ∈ pass.answers)
    (made : r.Assembled remote pool pass.answers (some url) inner ancestor) :
    Stocked r remote pool (pass.remember (.document url) ancestor) where
  cleared := h.cleared
  resolved := h.resolved
  fetched text known hk := by
    simp only [Pass.remember, Fields.find?_insert] at hk
    split at hk
    · next he =>
      cases hk
      exact ⟨url, inner, he, answered, made⟩
    · exact h.fetched text known hk

/-- What an opened place comes to can be remembered. -/
theorem remember {base innerBase : Option U} {record : Fields Json} {place : Place U}
    (h : Stocked r remote pool pass)
    (draws : r.Draws remote pool pass.answers base record place innerBase inner)
    (made : r.Assembled remote pool pass.answers innerBase inner ancestor) :
    Stocked r remote pool (pass.remember place ancestor) := by
  cases draws with
  | member refers found => exact h.remember_member found made
  | document refers outside unlisted looks located same answered accepted =>
      exact h.remember_document answered made

end Pass.Stocked

namespace Resolver

variable {r : Resolver U} {remote : Remote U} {pool : Pool} {base : Option U}
  {record ancestor : Fields Json} {reference requester : String} {pass : Pass U}

/-- A record merged onto one that is remembered is put together as that one is. -/
theorem Aims.assembled (aims : r.Aims pool pass base reference requester (.ok (.known ancestor)))
    (h : Pass.Stocked r remote pool pass)
    (refers : r.options.layout.extendOf? record = some reference) :
    r.Assembled remote pool pass.answers base record (r.options.layout.merged ancestor record) := by
  cases aims with
  | remembered known =>
      obtain ⟨inner, found, made⟩ := h.resolved _ _ known
      exact .child (.member refers found) made
  | fetched foreign looks reaches located known =>
      obtain ⟨url, inner, same, answered, made⟩ := h.fetched _ _ known
      have accepted := h.cleared.accepts answered
      exact .child (.document refers foreign.outside foreign.unlisted looks located same answered
        accepted) made

end Resolver

end Dossier
