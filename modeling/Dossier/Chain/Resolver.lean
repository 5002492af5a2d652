import Dossier.Chain.Collection

/-!
# Chain — either resolver

A resolver that knows the pool alone, or one that can fetch.  Each call is that of the one it is.
-/

namespace Dossier

structure Resolver (U : Type) where
  options : Options U
  /-- None for a resolver that knows the pool alone. -/
  remote : Option (Remote U)

namespace Resolver

variable {U : Type} [Urls U] (r : Resolver U) (pool : Pool)

/-- Resolves a record that was reached through the places of `chain`, with `levels` more to go. -/
def resolveFrom (levels : Nat) (chain : List (Place U)) (base : Option U) (record : Fields Json)
    (pass : Pass U) : Outcome U (Fields Json) :=
  match r.remote with
  | none => LocalResolver.resolveFrom ⟨r.options⟩ pool levels chain record pass
  | some remote => RemoteResolver.resolveFrom ⟨r.options, remote⟩ pool levels chain base record pass

/-- Resolves a record from outside the pool. -/
def resolveRecord (record : Fields Json) (pass : Pass U) : Outcome U (Fields Json) :=
  match r.remote with
  | none => LocalResolver.resolveRecord ⟨r.options⟩ pool record pass
  | some remote => RemoteResolver.resolveRecord ⟨r.options, remote⟩ pool record pass

/-- Resolves a pool member, whose name is then part of the chain. -/
def resolveMember (name : String) (record : Fields Json) (pass : Pass U) :
    Outcome U (Fields Json) :=
  match r.remote with
  | none => LocalResolver.resolveMember ⟨r.options⟩ pool name record pass
  | some remote => RemoteResolver.resolveMember ⟨r.options, remote⟩ pool name record pass

/-- The record of a value with all its ancestors merged. -/
def resolve (v : Json) : Outcome U Json :=
  match r.remote with
  | none => LocalResolver.resolve ⟨r.options⟩ pool v
  | some remote => RemoteResolver.resolve ⟨r.options, remote⟩ pool v

/-- The pool member of the given name with all its ancestors merged. -/
def resolveNamed (name : String) : Outcome U Json :=
  match r.remote with
  | none => LocalResolver.resolveNamed ⟨r.options⟩ pool name
  | some remote => RemoteResolver.resolveNamed ⟨r.options, remote⟩ pool name

/-- A pool member resolved, once in the pass. -/
def resolveOnce (name : String) (record : Fields Json) (pass : Pass U) : Outcome U (Fields Json) :=
  match r.remote with
  | none => LocalResolver.resolveOnce ⟨r.options⟩ pool name record pass
  | some remote => RemoteResolver.resolveOnce ⟨r.options, remote⟩ pool name record pass

/-- The given members resolved one after the other. -/
def resolveEach (records : List (String × Fields Json)) (pass : Pass U) : Outcome U (List Json) :=
  match r.remote with
  | none => LocalResolver.resolveEach ⟨r.options⟩ pool records pass
  | some remote => RemoteResolver.resolveEach ⟨r.options, remote⟩ pool records pass

/-- All members of the pool with all their ancestors merged, in the order of the pool. -/
def resolveCollection : Outcome U (List Json) :=
  match r.remote with
  | none => LocalResolver.resolveCollection ⟨r.options⟩ pool
  | some remote => RemoteResolver.resolveCollection ⟨r.options, remote⟩ pool

/-! ### What the calls have in common -/

theorem resolveRecord_def (record : Fields Json) (pass : Pass U) :
    r.resolveRecord pool record pass
      = r.resolveFrom pool r.options.maxDepth [] r.options.baseUrl record pass := by
  obtain ⟨o, _ | remote⟩ := r <;> rfl

theorem resolveMember_def (name : String) (record : Fields Json) (pass : Pass U) :
    r.resolveMember pool name record pass
      = match r.options.maxDepth with
        | 0 => (.error (.tooDeep name name 0), pass)
        | levels + 1 =>
          r.resolveFrom pool levels [.member name record] r.options.baseUrl record
            (pass.note (.entered [.member name record])) := by
  obtain ⟨o, _ | remote⟩ := r <;> rfl

theorem resolve_def (v : Json) :
    r.resolve pool v
      = match v with
        | .obj record =>
          ((r.resolveRecord pool record .start).1.map .obj, (r.resolveRecord pool record .start).2)
        | v => (.error (.notAnObject v.kind), .start) := by
  obtain ⟨o, _ | remote⟩ := r <;> cases v <;> rfl

theorem resolveNamed_def (name : String) :
    r.resolveNamed pool name
      = match pool.get? name with
        | some record =>
          ((r.resolveMember pool name record .start).1.map .obj,
            (r.resolveMember pool name record .start).2)
        | none => (.error (.unknownRecord name), .start) := by
  obtain ⟨o, _ | remote⟩ := r <;> rfl

theorem resolveOnce_def (name : String) (record : Fields Json) (pass : Pass U) :
    r.resolveOnce pool name record pass
      = match Fields.find? pass.resolved name with
        | some known => (.ok known, pass)
        | none =>
          match r.resolveMember pool name record pass with
          | (.error e, pass) => (.error e, pass)
          | (.ok result, pass) => (.ok result, pass.remember (.member name record) result) := by
  obtain ⟨o, _ | remote⟩ := r <;> rfl

theorem resolveEach_nil (pass : Pass U) : r.resolveEach pool [] pass = (.ok [], pass) := by
  obtain ⟨o, _ | remote⟩ := r <;> rfl

theorem resolveEach_cons (name : String) (record : Fields Json)
    (rest : List (String × Fields Json)) (pass : Pass U) :
    r.resolveEach pool ((name, record) :: rest) pass
      = match r.resolveOnce pool name record pass with
        | (.error e, pass) => (.error e, pass)
        | (.ok result, pass) =>
          match r.resolveEach pool rest pass with
          | (.error e, pass) => (.error e, pass)
          | (.ok results, pass) => (.ok (.obj result :: results), pass) := by
  obtain ⟨o, _ | remote⟩ := r <;> rfl

theorem resolveCollection_def :
    r.resolveCollection pool = r.resolveEach pool pool.records .start := by
  obtain ⟨o, _ | remote⟩ := r <;> rfl

end Resolver

end Dossier
