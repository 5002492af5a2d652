import Dossier.Chain.Merge
import Dossier.Chain.Options
import Dossier.Chain.Pass
import Dossier.Chain.Reference
import Dossier.Schema.Explanation

/-!
# Chain — resolving references to documents

Here an ancestor may also be a document, which is fetched and must be a record of the resolver's
schema.  A relative reference is taken against the URL of the document it stands in, and against the
base of the options in a local record; pool members are local, whoever refers to them.

Each ancestor is resolved once in a pass, and each document fetched once.  The chain of places under
way must not come back to a place, nor grow beyond the depth of the options.  The recursion runs on
the levels that are left.
-/

namespace Dossier

/-- What documents are fetched with and checked against.  A fetch may depend on the documents asked
for before. -/
structure Remote (U : Type) where
  registry : Registry
  schema : Schema
  fetch : List U → U → Except FetchError Json

/-- A resolver that can fetch. -/
structure RemoteResolver (U : Type) where
  options : Options U
  remote : Remote U

namespace RemoteResolver

variable {U : Type} [Urls U]

/-- The record of a document, if it can be fetched and is one of the schema. -/
def fetched (r : RemoteResolver U) (url : U) (reference requester : String) (pass : Pass U) :
    Outcome U (Fields Json) :=
  let answer := r.remote.fetch pass.requests url
  let pass := pass.note (.requested url answer)
  match answer with
  | .error cause => (.error (.fetch reference requester cause), pass)
  | .ok payload =>
    let refused := ResolveError.invalidRemote reference requester r.remote.schema.dtoName
      (r.remote.schema.explain r.remote.registry r.options.mode payload)
    match payload with
    | .obj fields =>
      if r.remote.schema.acceptsFields r.remote.registry r.options.mode fields then
        (.ok fields, pass)
      else (.error refused, pass)
    | _ => (.error refused, pass)

/-- Resolves a record that was reached through the places of `chain`, with `levels` more to go.
References in it are relative to the base. -/
def resolveFrom (r : RemoteResolver U) (pool : Pool) (levels : Nat) (chain : List (Place U))
    (base : Option U) (record : Fields Json) (pass : Pass U) : Outcome U (Fields Json) :=
  match r.options.layout.extendOf? record with
  | none => (.ok record, pass)
  | some reference =>
    let requester := r.options.layout.requester record
    match Fields.find? pass.resolved reference with
    | some ancestor => (.ok (r.options.layout.merged ancestor record), pass)
    | none =>
      match pool.get? reference with
      | some inner =>
        if reference ∈ chain.map Place.key then
          (.error (.cycle (chain.map Place.key ++ [reference])), pass)
        else match levels with
          | 0 => (.error (.tooDeep reference requester r.options.maxDepth), pass)
          | levels + 1 =>
            let place := Place.member reference inner
            let chain := chain ++ [place]
            match r.resolveFrom pool levels chain r.options.baseUrl inner
                (pass.note (.entered chain)) with
            | (.error e, pass) => (.error e, pass)
            | (.ok ancestor, pass) =>
              (.ok (r.options.layout.merged ancestor record), pass.remember place ancestor)
      | none =>
        if r.options.isBuiltIn reference then
          (.ok (r.options.layout.terminal reference record), pass)
        else if Reference.isRemote reference then
          match Urls.join base reference with
          | .error cause => (.error (.invalidUrl reference requester cause), pass)
          | .ok url =>
            match Fields.find? pass.fetched (Urls.text url) with
            | some ancestor => (.ok (r.options.layout.merged ancestor record), pass)
            | none =>
              if Urls.text url ∈ chain.map Place.key then
                (.error (.cycle (chain.map Place.key ++ [Urls.text url])), pass)
              else match levels with
                | 0 => (.error (.tooDeep (Urls.text url) requester r.options.maxDepth), pass)
                | levels + 1 =>
                  let place := Place.document url
                  let chain := chain ++ [place]
                  match r.fetched url reference requester (pass.note (.entered chain)) with
                  | (.error e, pass) => (.error e, pass)
                  | (.ok inner, pass) =>
                    match r.resolveFrom pool levels chain (some url) inner pass with
                    | (.error e, pass) => (.error e, pass)
                    | (.ok ancestor, pass) =>
                      (.ok (r.options.layout.merged ancestor record), pass.remember place ancestor)
        else (.error (.missing reference requester), pass)

/-- Resolves a record from outside the pool. -/
def resolveRecord (r : RemoteResolver U) (pool : Pool) (record : Fields Json) (pass : Pass U) :
    Outcome U (Fields Json) :=
  r.resolveFrom pool r.options.maxDepth [] r.options.baseUrl record pass

/-- Resolves a pool member, whose name is then part of the chain. -/
def resolveMember (r : RemoteResolver U) (pool : Pool) (name : String) (record : Fields Json)
    (pass : Pass U) : Outcome U (Fields Json) :=
  match r.options.maxDepth with
  | 0 => (.error (.tooDeep name name 0), pass)
  | levels + 1 =>
    let chain := [Place.member name record]
    r.resolveFrom pool levels chain r.options.baseUrl record (pass.note (.entered chain))

/-- The record of a value with all its ancestors merged. -/
def resolve (r : RemoteResolver U) (pool : Pool) (v : Json) : Outcome U Json :=
  match v with
  | .obj record =>
    let (result, pass) := r.resolveRecord pool record .start
    (result.map .obj, pass)
  | v => (.error (.notAnObject v.kind), .start)

/-- The pool member of the given name with all its ancestors merged. -/
def resolveNamed (r : RemoteResolver U) (pool : Pool) (name : String) : Outcome U Json :=
  match pool.get? name with
  | some record =>
    let (result, pass) := r.resolveMember pool name record .start
    (result.map .obj, pass)
  | none => (.error (.unknownRecord name), .start)

end RemoteResolver

end Dossier
