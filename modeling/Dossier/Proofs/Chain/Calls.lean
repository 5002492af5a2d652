import Dossier.Chain.Collection
import Dossier.Proofs.Chain.Run

/-!
# Chain — how calls come out

As `Run` does for a record, `Call` says how resolving a member comes out, `Turn` how its turn in a
collection does, and `Row` how the turns of a row of members do, with one constructor for each way.

* `Resolver.call_resolveMember`, `Resolver.turn_resolveOnce`, `Resolver.row_resolveEach`: the
  functions come out in one of these ways, and in no other (`Resolver.Call.resolveMember_eq`,
  `Resolver.Turn.resolveOnce_eq`, `Resolver.Row.resolveEach_eq`).
* `Resolver.Row.exists_failed`: a row that fails does so as one of its members is resolved.
* `Resolver.resolve_cases`, `Resolver.resolveNamed_cases`, `Resolver.row_resolveCollection`: what each
  call comes to in these terms.
* `Resolver.exists_of_resolve`, `Resolver.exists_of_resolveNamed`: a call that succeeds comes to
  what the record does.
* `FreeOf`: a call comes out without a failure of some kind.
-/

namespace Dossier

variable {U : Type} [Urls U]

/-! ### Kinds of failures -/

/-- The result is no failure of the kind. -/
def FreeOf {α : Type} (kind : ResolveError → Prop) (result : Except ResolveError α) : Prop :=
  ∀ e, result = .error e → ¬ kind e

section

variable {α β : Type} {kind : ResolveError → Prop} {e : ResolveError} {result : Except ResolveError α}
  {f : α → β}

theorem FreeOf.of_ok (a : α) : FreeOf kind (.ok a : Except ResolveError α) := fun _ h => nomatch h

theorem FreeOf.of_isOk (h : result.isOk = true) : FreeOf kind result := by
  rintro e rfl
  cases h

theorem FreeOf.error_iff : FreeOf kind (.error e : Except ResolveError α) ↔ ¬ kind e :=
  ⟨fun h => h e rfl, fun h _ he => by cases he; exact h⟩

theorem FreeOf.error (h : FreeOf kind (.error e : Except ResolveError α)) :
    FreeOf kind (.error e : Except ResolveError β) :=
  error_iff.mpr (error_iff.mp h)

theorem FreeOf.of_map (h : FreeOf kind (result.map f)) : FreeOf kind result := by
  cases result with
  | error e => exact h.error
  | ok a => exact .of_ok a

end

namespace Resolver

/-! ### Members, and rows of them -/

/-- How resolving a member comes out. -/
inductive Call (r : Resolver U) (pool : Pool) (name : String) (record : Fields Json)
    (pass : Pass U) : Except ResolveError (Fields Json) → Pass U → Prop where
  /-- No level is allowed, not even for the member. -/
  | refused (flat : r.options.maxDepth = 0) :
      Call r pool name record pass (.error (.tooDeep name name 0)) pass
  /-- The member is entered, and its record resolved. -/
  | entered {levels : Nat} {outcome : Except ResolveError (Fields Json)} {after : Pass U}
      (deep : r.options.maxDepth = levels + 1)
      (run : r.Run pool levels [.member name record] r.options.baseUrl record
        (pass.note (.entered [.member name record])) outcome after) :
      Call r pool name record pass outcome after

/-- How a member's turn in a collection comes out. -/
inductive Turn (r : Resolver U) (pool : Pool) (name : String) (record : Fields Json)
    (pass : Pass U) : Except ResolveError (Fields Json) → Pass U → Prop where
  /-- It is resolved already. -/
  | known {result : Fields Json} (known : Fields.find? pass.resolved name = some result) :
      Turn r pool name record pass (.ok result) pass
  | failed {e : ResolveError} {after : Pass U} (new : Fields.find? pass.resolved name = none)
      (call : r.Call pool name record pass (.error e) after) :
      Turn r pool name record pass (.error e) after
  | resolved {result : Fields Json} {after : Pass U} (new : Fields.find? pass.resolved name = none)
      (call : r.Call pool name record pass (.ok result) after) :
      Turn r pool name record pass (.ok result) (after.remember (.member name record) result)

/-- How the turns of a row of members come out. -/
inductive Row (r : Resolver U) (pool : Pool) : List (String × Fields Json) → Pass U →
    Except ResolveError (List Json) → Pass U → Prop where
  | nil {pass : Pass U} : Row r pool [] pass (.ok []) pass
  /-- The first of them fails. -/
  | stopped {name : String} {record : Fields Json} {rest : List (String × Fields Json)}
      {pass after : Pass U} {e : ResolveError}
      (turn : r.Turn pool name record pass (.error e) after) :
      Row r pool ((name, record) :: rest) pass (.error e) after
  /-- Another of them does. -/
  | failed {name : String} {record result : Fields Json} {rest : List (String × Fields Json)}
      {pass after last : Pass U} {e : ResolveError}
      (turn : r.Turn pool name record pass (.ok result) after)
      (row : Row r pool rest after (.error e) last) :
      Row r pool ((name, record) :: rest) pass (.error e) last
  | cons {name : String} {record result : Fields Json} {rest : List (String × Fields Json)}
      {pass after last : Pass U} {results : List Json}
      (turn : r.Turn pool name record pass (.ok result) after)
      (row : Row r pool rest after (.ok results) last) :
      Row r pool ((name, record) :: rest) pass (.ok (.obj result :: results)) last

section

variable (r : Resolver U) (pool : Pool) (name : String) (record : Fields Json)
  (records : List (String × Fields Json)) (pass : Pass U)

theorem call_resolveMember :
    r.Call pool name record pass (r.resolveMember pool name record pass).1
      (r.resolveMember pool name record pass).2 := by
  rw [resolveMember_def]
  split
  · next flat => exact .refused flat
  · next levels deep => exact .entered deep (run_resolveFrom ..)

theorem turn_resolveOnce :
    r.Turn pool name record pass (r.resolveOnce pool name record pass).1
      (r.resolveOnce pool name record pass).2 := by
  have call := call_resolveMember r pool name record pass
  rw [resolveOnce_def]
  split
  · next known => exact .known known
  · next new =>
    split
    · next failed =>
      rw [failed] at call
      exact .failed new call
    · next resolved =>
      rw [resolved] at call
      exact .resolved new call

theorem row_resolveEach :
    r.Row pool records pass (r.resolveEach pool records pass).1
      (r.resolveEach pool records pass).2 := by
  induction records generalizing pass with
  | nil =>
      rw [resolveEach_nil]
      exact .nil
  | cons first rest ih =>
      have turn := turn_resolveOnce r pool first.1 first.2 pass
      rw [resolveEach_cons]
      split
      · next failed =>
        rw [failed] at turn
        exact .stopped turn
      · next result after resolved =>
        rw [resolved] at turn
        have row := ih after
        split
        · next failed =>
          rw [failed] at row
          exact .failed turn row
        · next others =>
          rw [others] at row
          exact .cons turn row

end

variable {r : Resolver U} {pool : Pool} {name : String} {record : Fields Json}
  {records : List (String × Fields Json)} {pass after : Pass U}

theorem Call.resolveMember_eq {outcome : Except ResolveError (Fields Json)}
    (call : r.Call pool name record pass outcome after) :
    r.resolveMember pool name record pass = (outcome, after) := by
  rw [resolveMember_def]
  cases call with
  | refused flat => simp only [flat]
  | entered deep run => simp only [deep, run.resolveFrom_eq]

theorem Turn.resolveOnce_eq {outcome : Except ResolveError (Fields Json)}
    (turn : r.Turn pool name record pass outcome after) :
    r.resolveOnce pool name record pass = (outcome, after) := by
  rw [resolveOnce_def]
  cases turn with
  | known known => simp only [known]
  | failed new call | resolved new call => simp only [new, call.resolveMember_eq]

theorem Row.resolveEach_eq {outcome : Except ResolveError (List Json)}
    (row : r.Row pool records pass outcome after) :
    r.resolveEach pool records pass = (outcome, after) := by
  induction row with
  | nil => exact resolveEach_nil ..
  | stopped turn => rw [resolveEach_cons, turn.resolveOnce_eq]
  | failed turn row ih | cons turn row ih =>
      rw [resolveEach_cons, turn.resolveOnce_eq]
      simp only [ih]

/-- A row of members fails as one of them does in the pass so far. -/
theorem Row.exists_failed {outcome : Except ResolveError (List Json)} {e : ResolveError}
    (row : r.Row pool records pass outcome after) (he : outcome = .error e) :
    ∃ name record before, (name, record) ∈ records
      ∧ r.Call pool name record before (.error e) after := by
  induction row with
  | nil | cons => cases he
  | stopped turn =>
      cases he
      cases turn with
      | failed new call => exact ⟨_, _, _, List.mem_cons_self .., call⟩
  | failed turn row ih =>
      obtain ⟨name, record, before, hm, call⟩ := ih he
      exact ⟨name, record, before, List.mem_cons_of_mem _ hm, call⟩

/-! ### Calls -/

/-- A call on a value is a run of its record, and refuses a value that has none. -/
theorem resolve_cases (r : Resolver U) (pool : Pool) (v : Json) :
    (∃ record outcome after, v = .obj record
      ∧ r.Run pool r.options.maxDepth [] r.options.baseUrl record .start outcome after
      ∧ r.resolve pool v = (outcome.map .obj, after))
    ∨ r.resolve pool v = (.error (.notAnObject v.kind), .start) := by
  rw [resolve_def]
  cases v with
  | obj record =>
      refine .inl ⟨record, _, _, rfl, run_resolveFrom r pool _ _ _ record .start, ?_⟩
      simp only [resolveRecord_def]
  | _ => exact .inr rfl

/-- A call on a name is one on the member of that name, and refuses a name that is no member's. -/
theorem resolveNamed_cases (r : Resolver U) (pool : Pool) (name : String) :
    (∃ record outcome after, pool.get? name = some record
      ∧ r.Call pool name record .start outcome after
      ∧ r.resolveNamed pool name = (outcome.map .obj, after))
    ∨ pool.get? name = none ∧ r.resolveNamed pool name = (.error (.unknownRecord name), .start) := by
  rw [resolveNamed_def]
  cases found : pool.get? name with
  | some record => exact .inl ⟨record, _, _, rfl, call_resolveMember r pool name record .start, rfl⟩
  | none => exact .inr ⟨rfl, rfl⟩

/-- A call on a pool is a row of all its members. -/
theorem row_resolveCollection (r : Resolver U) (pool : Pool) :
    r.Row pool pool.records .start (r.resolveCollection pool).1 (r.resolveCollection pool).2 := by
  rw [resolveCollection_def]
  exact row_resolveEach r pool pool.records .start

/-! ### Results -/

theorem exists_of_resolve {v result : Json} (h : (r.resolve pool v).1 = .ok result) :
    ∃ record own, v = .obj record ∧ (r.resolveRecord pool record .start).1 = .ok own
      ∧ result = .obj own := by
  rw [resolve_def] at h
  cases v with
  | obj record =>
      obtain ⟨own, hown, rfl⟩ := exists_of_map_eq_ok h
      exact ⟨record, own, rfl, hown, rfl⟩
  | _ => cases h

theorem exists_of_resolveNamed {result : Json} (h : (r.resolveNamed pool name).1 = .ok result) :
    ∃ record own, pool.get? name = some record
      ∧ (r.resolveMember pool name record .start).1 = .ok own ∧ result = .obj own := by
  rw [resolveNamed_def] at h
  split at h
  · next record found =>
    obtain ⟨own, hown, rfl⟩ := exists_of_map_eq_ok h
    exact ⟨record, own, found, hown, rfl⟩
  · cases h

end Resolver

end Dossier
