import Dossier.Chain.Merge
import Dossier.Chain.Options
import Dossier.Chain.Pass
import Dossier.Chain.Reference

/-!
# Chain — resolving references with the pool alone

A record that refers to an ancestor is resolved by resolving the ancestor first and merging the
record onto it.  The ancestor is a pool member or a built-in; a remote reference is refused.

Each ancestor is resolved once in a pass.  The chain of places under way must not come back to a
place, nor grow beyond the depth of the options.  The recursion runs on the levels that are left.
-/

namespace Dossier

/-- A resolver that knows the pool alone. -/
structure LocalResolver (U : Type) where
  options : Options U

namespace LocalResolver

variable {U : Type} [Urls U]

/-- Resolves a record that was reached through the places of `chain`, with `levels` more to go. -/
def resolveFrom (r : LocalResolver U) (pool : Pool) (levels : Nat) (chain : List (Place U))
    (record : Fields Json) (pass : Pass U) : Outcome U (Fields Json) :=
  match r.options.layout.extendOf? record with
  | none => (.ok record, pass)
  | some reference =>
    let requester := r.options.layout.requester record
    match Fields.find? pass.resolved reference with
    | some ancestor => (.ok (r.options.layout.merged ancestor record), pass)
    | none =>
      match pool.get? reference with
      | some inner =>
        if reference ∈ chain.map Place.key then
          (.error (.cycle (chain.map Place.key ++ [reference])), pass)
        else match levels with
          | 0 => (.error (.tooDeep reference requester r.options.maxDepth), pass)
          | levels + 1 =>
            let place := Place.member reference inner
            let chain := chain ++ [place]
            match r.resolveFrom pool levels chain inner (pass.note (.entered chain)) with
            | (.error e, pass) => (.error e, pass)
            | (.ok ancestor, pass) =>
              (.ok (r.options.layout.merged ancestor record), pass.remember place ancestor)
      | none =>
        if r.options.isBuiltIn reference then
          (.ok (r.options.layout.terminal reference record), pass)
        else if Reference.isRemote reference then
          (.error (.remoteUnsupported reference requester), pass)
        else (.error (.missing reference requester), pass)

/-- Resolves a record from outside the pool. -/
def resolveRecord (r : LocalResolver U) (pool : Pool) (record : Fields Json) (pass : Pass U) :
    Outcome U (Fields Json) :=
  r.resolveFrom pool r.options.maxDepth [] record pass

/-- Resolves a pool member, whose name is then part of the chain. -/
def resolveMember (r : LocalResolver U) (pool : Pool) (name : String) (record : Fields Json)
    (pass : Pass U) : Outcome U (Fields Json) :=
  match r.options.maxDepth with
  | 0 => (.error (.tooDeep name name 0), pass)
  | levels + 1 =>
    let chain := [Place.member name record]
    r.resolveFrom pool levels chain record (pass.note (.entered chain))

/-- The record of a value with all its ancestors merged. -/
def resolve (r : LocalResolver U) (pool : Pool) (v : Json) : Outcome U Json :=
  match v with
  | .obj record =>
    let (result, pass) := r.resolveRecord pool record .start
    (result.map .obj, pass)
  | v => (.error (.notAnObject v.kind), .start)

/-- The pool member of the given name with all its ancestors merged. -/
def resolveNamed (r : LocalResolver U) (pool : Pool) (name : String) : Outcome U Json :=
  match pool.get? name with
  | some record =>
    let (result, pass) := r.resolveMember pool name record .start
    (result.map .obj, pass)
  | none => (.error (.unknownRecord name), .start)

end LocalResolver

end Dossier
