import Dossier.Chain.Local
import Dossier.Chain.Remote

/-!
# Chain — resolving a whole pool

All members of a pool are resolved in one pass, in the order of the pool.  A member that was an
ancestor of an earlier one is not resolved again.  The first failure ends the pass.
-/

namespace Dossier

variable {U : Type} [Urls U]

namespace LocalResolver

/-- A pool member resolved, once in the pass. -/
def resolveOnce (r : LocalResolver U) (pool : Pool) (name : String) (record : Fields Json)
    (pass : Pass U) : Outcome U (Fields Json) :=
  match Fields.find? pass.resolved name with
  | some known => (.ok known, pass)
  | none =>
    match r.resolveMember pool name record pass with
    | (.error e, pass) => (.error e, pass)
    | (.ok result, pass) => (.ok result, pass.remember (.member name record) result)

/-- The given members resolved one after the other. -/
def resolveEach (r : LocalResolver U) (pool : Pool) :
    List (String × Fields Json) → Pass U → Outcome U (List Json)
  | [], pass => (.ok [], pass)
  | (name, record) :: rest, pass =>
    match r.resolveOnce pool name record pass with
    | (.error e, pass) => (.error e, pass)
    | (.ok result, pass) =>
      match r.resolveEach pool rest pass with
      | (.error e, pass) => (.error e, pass)
      | (.ok results, pass) => (.ok (.obj result :: results), pass)

/-- All members of the pool with all their ancestors merged, in the order of the pool. -/
def resolveCollection (r : LocalResolver U) (pool : Pool) : Outcome U (List Json) :=
  r.resolveEach pool pool.records .start

end LocalResolver

namespace RemoteResolver

/-- A pool member resolved, once in the pass. -/
def resolveOnce (r : RemoteResolver U) (pool : Pool) (name : String) (record : Fields Json)
    (pass : Pass U) : Outcome U (Fields Json) :=
  match Fields.find? pass.resolved name with
  | some known => (.ok known, pass)
  | none =>
    match r.resolveMember pool name record pass with
    | (.error e, pass) => (.error e, pass)
    | (.ok result, pass) => (.ok result, pass.remember (.member name record) result)

/-- The given members resolved one after the other. -/
def resolveEach (r : RemoteResolver U) (pool : Pool) :
    List (String × Fields Json) → Pass U → Outcome U (List Json)
  | [], pass => (.ok [], pass)
  | (name, record) :: rest, pass =>
    match r.resolveOnce pool name record pass with
    | (.error e, pass) => (.error e, pass)
    | (.ok result, pass) =>
      match r.resolveEach pool rest pass with
      | (.error e, pass) => (.error e, pass)
      | (.ok results, pass) => (.ok (.obj result :: results), pass)

/-- All members of the pool with all their ancestors merged, in the order of the pool. -/
def resolveCollection (r : RemoteResolver U) (pool : Pool) : Outcome U (List Json) :=
  r.resolveEach pool pool.records .start

end RemoteResolver

end Dossier
