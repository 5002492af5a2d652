import Dossier.Proofs.Chain.Remembered

/-!
# Chain — what all resolved records have in common

Whatever its origin, a record that is resolved refers to nothing, or is a built-in's reduced record,
or is merged onto one that was resolved before.  A property that these three steps bring about and
keep (`Resolver.Upholds`) is one of all resolved records, and of all that a pass remembers
(`Pass.Keeps`), whatever the documents are answered with.

* `Resolver.Run.keeps`: a run remembers, and comes to, records with the property alone.
* `Resolver.upholds_settled`: that a record refers to no more than a built-in is such a property.
* `Resolver.upholds_plain`: in a regular layout it is one that a record refers to nothing.
* `Resolver.Row.keeps`: the members of a collection come to records with the property.
-/

namespace Dossier

variable {U : Type}

/-- The names remembered are members', and the records remembered have a property. -/
structure Pass.Keeps (pool : Pool) (P : Fields Json → Prop) (pass : Pass U) : Prop where
  members : ∀ name record, Fields.find? pass.resolved name = some record →
    pool.contains name = true ∧ P record
  documents : ∀ text record, Fields.find? pass.fetched text = some record → P record

/-- A property that holds of the records at which a chain ends, and that merging keeps. -/
structure Resolver.Upholds (r : Resolver U) (pool : Pool) (P : Fields Json → Prop) : Prop where
  plain : ∀ record, r.options.layout.extendOf? record = none → P record
  builtIn : ∀ record reference, r.options.layout.extendOf? record = some reference →
    pool.get? reference = none → r.options.isBuiltIn reference = true →
    P (r.options.layout.terminal reference record)
  merged : ∀ ancestor record, P ancestor → P (r.options.layout.merged ancestor record)

namespace Pass.Keeps

variable {r : Resolver U} {pool : Pool} {P : Fields Json → Prop} {pass : Pass U}
  {base : Option U} {place : Place U} {record : Fields Json} {reference requester : String}

theorem start (pool : Pool) (P : Fields Json → Prop) : Pass.Keeps pool P (.start : Pass U) where
  members _ _ h := nomatch h
  documents _ _ h := nomatch h

theorem note (h : Pass.Keeps pool P pass) (e : Event U) : Pass.Keeps pool P (pass.note e) :=
  ⟨h.members, h.documents⟩

theorem opened {found : Except ResolveError (Fields Json × Option U)} {after : Pass U}
    (h : Pass.Keeps pool P pass)
    (opens : r.opened place reference requester pass = (found, after)) :
    Pass.Keeps pool P after := by
  obtain ⟨resolved, fetched⟩ := Resolver.tables_of_opened opens
  exact ⟨resolved ▸ h.members, fetched ▸ h.documents⟩

theorem remember_member [Urls U] (h : Pass.Keeps pool P pass) {name : String} {inner : Fields Json}
    (found : pool.contains name = true) (hp : P record) :
    Pass.Keeps pool P (pass.remember (.member name inner) record) where
  members other known hk := by
    simp only [Pass.remember, Fields.find?_insert] at hk
    split at hk
    · next he =>
      cases hk
      exact ⟨he ▸ found, hp⟩
    · exact h.members other known hk
  documents := h.documents

theorem remember_document [Urls U] (h : Pass.Keeps pool P pass) (url : U) (hp : P record) :
    Pass.Keeps pool P (pass.remember (.document url) record) where
  members := h.members
  documents text known hk := by
    simp only [Pass.remember, Fields.find?_insert] at hk
    split at hk
    · cases hk
      exact hp
    · exact h.documents text known hk

end Pass.Keeps

namespace Resolver

variable {r : Resolver U} {pool : Pool} {P : Fields Json → Prop} {levels : Nat}
  {chain : List (Place U)} {base : Option U} {record : Fields Json} {reference requester : String} {pass after : Pass U}
  {outcome : Except ResolveError (Fields Json)}

/-! ### Properties that are upheld -/

/-- That a record refers to no more than a built-in. -/
theorem upholds_settled (r : Resolver U) (pool : Pool) : r.Upholds pool (r.Settled pool) where
  plain record refers reference hr := nomatch refers.symm.trans hr
  builtIn record reference refers outside listed other hr := by
    obtain rfl := Layout.eq_of_extendOf?_terminal refers hr
    exact ⟨outside, listed⟩
  merged ancestor record h := settled_merged h record

/-- That a record refers to nothing, in a regular layout. -/
theorem upholds_plain (hl : r.options.layout.Regular) (pool : Pool) :
    r.Upholds pool fun record => r.options.layout.extendOf? record = none where
  plain _ refers := refers
  builtIn _ _ _ _ _ := Layout.extendOf?_terminal hl _ _
  merged ancestor record _ := Layout.extendOf?_merged hl ancestor record

/-! ### Runs -/

variable [Urls U]

theorem Aims.keeps {place : Place U} {ancestor : Fields Json} {before : Pass U}
    (aims : r.Aims pool before base reference requester (.ok (.place place)))
    (h : Pass.Keeps pool P pass) (hp : P ancestor) :
    Pass.Keeps pool P (pass.remember place ancestor) := by
  cases aims with
  | member new found => exact h.remember_member (Pool.contains_of_get? found) hp
  | document => exact h.remember_document _ hp

theorem Aims.known {ancestor : Fields Json}
    (aims : r.Aims pool pass base reference requester (.ok (.known ancestor)))
    (h : Pass.Keeps pool P pass) : P ancestor := by
  cases aims with
  | remembered known => exact (h.members _ _ known).2
  | fetched foreign looks reaches located known => exact h.documents _ _ known

/-- **A run remembers, and comes to, records with the property alone**, wherever its ancestors come
from. -/
theorem Run.keeps (run : r.Run pool levels chain base record pass outcome after)
    (up : r.Upholds pool P) (h : Pass.Keeps pool P pass) :
    Pass.Keeps pool P after ∧ ∀ result, outcome = .ok result → P result := by
  induction run with
  | astray | cycle | tooDeep => exact ⟨h, fun _ he => nomatch he⟩
  | plain refers =>
      refine ⟨h, fun result he => ?_⟩
      cases he
      exact up.plain _ refers
  | known refers aims =>
      refine ⟨h, fun result he => ?_⟩
      cases he
      exact up.merged _ _ (aims.known h)
  | builtIn refers aims =>
      refine ⟨h, fun result he => ?_⟩
      cases he
      cases aims with
      | builtIn new outside listed => exact up.builtIn _ _ refers outside listed
  | unopened refers aims new opens => exact ⟨(h.note _).opened opens, fun _ he => nomatch he⟩
  | failed refers aims new opens run ih =>
      exact ⟨(ih ((h.note _).opened opens)).1, fun _ he => nomatch he⟩
  | merged refers aims new opens run ih =>
      obtain ⟨kept, holds⟩ := ih ((h.note _).opened opens)
      refine ⟨aims.keeps kept (holds _ rfl), fun result he => ?_⟩
      cases he
      exact up.merged _ _ (holds _ rfl)

/-! ### Members and collections -/

theorem Call.keeps {name : String} (call : r.Call pool name record pass outcome after)
    (up : r.Upholds pool P) (h : Pass.Keeps pool P pass) :
    Pass.Keeps pool P after ∧ ∀ result, outcome = .ok result → P result := by
  cases call with
  | refused => exact ⟨h, fun _ he => nomatch he⟩
  | entered deep run => exact run.keeps up (h.note _)

theorem Turn.keeps {name : String} (turn : r.Turn pool name record pass outcome after)
    (found : pool.contains name = true) (up : r.Upholds pool P) (h : Pass.Keeps pool P pass) :
    Pass.Keeps pool P after ∧ ∀ result, outcome = .ok result → P result := by
  cases turn with
  | known known =>
      refine ⟨h, fun result he => ?_⟩
      cases he
      exact (h.members _ _ known).2
  | failed new call => exact call.keeps up h
  | resolved new call =>
      obtain ⟨kept, holds⟩ := call.keeps up h
      exact ⟨kept.remember_member found (holds _ rfl), holds⟩

/-- The members of a collection come to records with the property. -/
theorem Row.keeps {records : List (String × Fields Json)}
    {outcome : Except ResolveError (List Json)} (row : r.Row pool records pass outcome after)
    (found : ∀ e ∈ records, pool.contains e.1 = true) (up : r.Upholds pool P)
    (h : Pass.Keeps pool P pass) {results : List Json} (ho : outcome = .ok results) :
    ∀ v ∈ results, ∃ record, v = .obj record ∧ P record := by
  induction row generalizing results with
  | nil =>
      cases ho
      exact fun _ hv => nomatch hv
  | stopped | failed => cases ho
  | cons turn row ih =>
      cases ho
      obtain ⟨kept, holds⟩ := turn.keeps (found _ (List.mem_cons_self ..)) up h
      intro v hv
      rcases List.mem_cons.mp hv with rfl | hv
      · exact ⟨_, rfl, holds _ rfl⟩
      · exact ih (fun e he => found e (List.mem_cons_of_mem _ he)) kept rfl v hv

end Resolver

end Dossier
