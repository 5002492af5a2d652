import Dossier.Proofs.Chain.Calls

/-!
# Chain — documents are asked for once

A document that was asked for in a pass is under way as long as its own chain is, and after that it
is remembered; a failure ends the pass.  `Pass.Accounted` is this invariant, with the documents
asked for so far having distinct texts.

* `Pass.Accounted.opened`, `Pass.Accounted.remember`: entering a place and leaving it keep the
  invariant.
* `Resolver.Run.accounted`: so does a resolution that succeeds, and one that fails has asked for no
  document twice.
* `Resolver.Row.accounted`: neither has a row of members, whether it succeeds or fails.
* `Resolver.requests_nodup`: no call asks for a document twice.

Nothing is assumed of the answers, which may change from one request to the next.
-/

namespace Dossier

variable {U : Type} [Urls U]

/-- The texts of the documents in a chain. -/
def documentTexts (chain : List (Place U)) : List String :=
  chain.filterMap fun
    | .member _ _ => none
    | .document url => some (Urls.text url)

theorem key_mem_of_mem_documentTexts {chain : List (Place U)} {text : String}
    (h : text ∈ documentTexts chain) : text ∈ chain.map Place.key := by
  obtain ⟨place, hp, ht⟩ := List.mem_filterMap.mp h
  cases place with
  | member name record => cases ht
  | document url =>
      cases ht
      exact List.mem_map.mpr ⟨_, hp, rfl⟩

namespace Pass

/-- The documents asked for are distinct, and each of them is remembered or under way. -/
structure Accounted (chain : List (Place U)) (pass : Pass U) : Prop where
  once : (pass.requests.map Urls.text).Nodup
  placed : ∀ url ∈ pass.requests,
    Fields.contains pass.fetched (Urls.text url) = true ∨ Urls.text url ∈ documentTexts chain

variable {chain : List (Place U)} {pass : Pass U}

theorem accounted_start : Accounted [] (start : Pass U) := ⟨List.nodup_nil, fun _ h => nomatch h⟩

theorem Accounted.mono {longer : List (Place U)} (h : Accounted chain pass)
    (hc : ∀ text ∈ documentTexts chain, text ∈ documentTexts longer) : Accounted longer pass :=
  ⟨h.once, fun url hu => (h.placed url hu).imp_right (hc _)⟩

theorem Accounted.entered (h : Accounted chain pass) (places : List (Place U)) :
    Accounted chain (pass.note (.entered places)) :=
  ⟨requests_note_entered pass places ▸ h.once, requests_note_entered pass places ▸ h.placed⟩

/-- A document that is neither remembered nor under way was not asked for. -/
theorem Accounted.requested (h : Accounted chain pass) {url : U}
    (hf : Fields.find? pass.fetched (Urls.text url) = none) (hc : Urls.text url ∉ chain.map Place.key)
    (answer : Except FetchError Json) :
    Accounted (chain ++ [.document url]) (pass.note (.requested url answer)) := by
  have hnew : Urls.text url ∉ pass.requests.map Urls.text := by
    intro hm
    obtain ⟨other, ho, ht⟩ := List.mem_map.mp hm
    rcases h.placed other ho with hk | hk
    · rw [ht, Fields.contains, hf] at hk
      cases hk
    · exact hc (ht ▸ key_mem_of_mem_documentTexts hk)
  constructor
  · rw [requests_note_requested, List.map_append, List.map_singleton]
    refine List.nodup_append.mpr ⟨h.once, List.pairwise_singleton .., fun a ha b hb => ?_⟩
    obtain rfl := List.mem_singleton.mp hb
    exact fun e => hnew (e ▸ ha)
  · intro other ho
    rw [requests_note_requested, List.mem_append, List.mem_singleton] at ho
    rw [documentTexts, List.filterMap_append, List.mem_append]
    rcases ho with ho | rfl
    · exact (h.placed other ho).imp_right .inl
    · exact .inr (.inr (List.mem_singleton.mpr rfl))

/-- Opening a place that a reference leads to, and that is not under way, keeps the account. -/
theorem Accounted.opened {r : Resolver U} {pool : Pool} {base : Option U} {place : Place U}
    {reference requester : String} {places : List (Place U)}
    {found : Except ResolveError (Fields Json × Option U)} {opened : Pass U}
    (h : Accounted chain pass)
    (aims : r.Aims pool pass base reference requester (.ok (.place place)))
    (new : place.key ∉ chain.map Place.key)
    (opens : r.opened place reference requester (pass.note (.entered places)) = (found, opened)) :
    Accounted (chain ++ [place]) opened := by
  have hentered := h.entered places
  cases aims with
  | member =>
      cases opens
      refine hentered.mono fun text ht => ?_
      rw [documentTexts, List.filterMap_append]
      exact List.mem_append_left _ ht
  | document foreign looks reaches located unread =>
      rw [Resolver.opened_document reaches] at opens
      cases opens
      exact hentered.requested unread new _

/-- What is no longer under way is remembered. -/
theorem Accounted.remember {place : Place U} (h : Accounted (chain ++ [place]) pass)
    (record : Fields Json) : Accounted chain (pass.remember place record) := by
  constructor
  · exact requests_remember pass place record ▸ h.once
  · intro url hu
    rw [requests_remember] at hu
    have placed := h.placed url hu
    rw [documentTexts, List.filterMap_append, List.mem_append] at placed
    cases place with
    | member name record =>
        rcases placed with hk | hk | hk
        · exact .inl hk
        · exact .inr hk
        · cases hk
    | document own =>
        simp only [Pass.remember, Fields.contains, Fields.find?_insert]
        rcases placed with hk | hk | hk
        · by_cases he : Urls.text own = Urls.text url
          · exact .inl (by rw [if_pos he]; rfl)
          · exact .inl (by rw [if_neg he]; exact hk)
        · exact .inr hk
        · exact .inl (by rw [if_pos (List.mem_singleton.mp hk).symm]; rfl)

end Pass

namespace Resolver

variable {r : Resolver U} {pool : Pool} {levels : Nat} {chain : List (Place U)} {base : Option U}
  {record : Fields Json} {pass after : Pass U}

/-- A resolution asks for no document twice, and keeps the account if it succeeds. -/
theorem Run.accounted {outcome : Except ResolveError (Fields Json)}
    (run : r.Run pool levels chain base record pass outcome after)
    (h : Pass.Accounted chain pass) :
    (after.requests.map Urls.text).Nodup
      ∧ ∀ result, outcome = .ok result → Pass.Accounted chain after := by
  induction run with
  | plain | astray | known | builtIn | cycle | tooDeep => exact ⟨h.once, fun _ _ => h⟩
  | unopened refers aims new opens =>
      exact ⟨(h.opened aims new opens).once, fun _ he => nomatch he⟩
  | failed refers aims new opens run ih =>
      exact ⟨(ih (h.opened aims new opens)).1, fun _ he => nomatch he⟩
  | merged refers aims new opens run ih =>
      have inner := (ih (h.opened aims new opens)).2 _ rfl
      exact ⟨(inner.remember _).once, fun _ _ => inner.remember _⟩

theorem Call.accounted {name : String} {outcome : Except ResolveError (Fields Json)}
    (call : r.Call pool name record pass outcome after) (h : Pass.Accounted [] pass) :
    (after.requests.map Urls.text).Nodup
      ∧ ∀ result, outcome = .ok result → Pass.Accounted [] after := by
  cases call with
  | refused => exact ⟨h.once, fun _ he => nomatch he⟩
  | entered deep run =>
      -- a chain of the member alone has no document under way
      have entered : Pass.Accounted [.member name record]
          (pass.note (.entered [.member name record])) := (h.entered _).mono fun _ ht => ht
      have ⟨once, kept⟩ := run.accounted entered
      exact ⟨once, fun result he => (kept result he).mono fun _ ht => ht⟩

theorem Turn.accounted {name : String} {outcome : Except ResolveError (Fields Json)}
    (turn : r.Turn pool name record pass outcome after) (h : Pass.Accounted [] pass) :
    (after.requests.map Urls.text).Nodup
      ∧ ∀ result, outcome = .ok result → Pass.Accounted [] after := by
  cases turn with
  | known => exact ⟨h.once, fun _ _ => h⟩
  | failed new call => exact call.accounted h
  | @resolved result after new call =>
      have entered : Pass.Accounted ([] ++ [.member name record]) after :=
        ((call.accounted h).2 result rfl).mono fun _ ht => ht
      have left := entered.remember result
      exact ⟨left.once, fun _ _ => left⟩

theorem Row.accounted {records : List (String × Fields Json)}
    {outcome : Except ResolveError (List Json)} (row : r.Row pool records pass outcome after)
    (h : Pass.Accounted [] pass) : (after.requests.map Urls.text).Nodup := by
  induction row with
  | nil => exact h.once
  | stopped turn => exact (turn.accounted h).1
  | failed turn row ih | cons turn row ih => exact ih ((turn.accounted h).2 _ rfl)

/-- **No call asks for a document twice**, whether it succeeds or fails, and whatever the
documents are answered with: the texts of the URLs asked for are distinct. -/
theorem requests_nodup (r : Resolver U) (pool : Pool) :
    (∀ v, ((r.resolve pool v).2.requests.map Urls.text).Nodup)
      ∧ (∀ name, ((r.resolveNamed pool name).2.requests.map Urls.text).Nodup)
      ∧ ((r.resolveCollection pool).2.requests.map Urls.text).Nodup := by
  refine ⟨fun v => ?_, fun name => ?_, (row_resolveCollection r pool).accounted Pass.accounted_start⟩
  · obtain ⟨record, outcome, after, -, run, eq⟩ | eq := resolve_cases r pool v
    · rw [eq]
      exact (run.accounted Pass.accounted_start).1
    · rw [eq]
      exact List.nodup_nil
  · obtain ⟨record, outcome, after, -, call, eq⟩ | ⟨-, eq⟩ := resolveNamed_cases r pool name
    · rw [eq]
      exact (call.accounted Pass.accounted_start).1
    · rw [eq]
      exact List.nodup_nil

end Resolver

end Dossier
