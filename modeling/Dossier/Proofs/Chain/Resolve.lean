import Dossier.Proofs.Chain.Merge
import Dossier.Proofs.Chain.Run

/-!
# Chain — one level of a resolution

What resolving a record comes to, by what its reference leads to, as long as nothing is remembered
under that reference: `Resolver.resolveFrom_of_plain`, `Resolver.resolveFrom_of_member` and
`Resolver.resolveFrom_of_builtIn` for any resolver, and `Options.resolveFrom_of_stray` for one that
knows the pool alone.

In a regular layout a resolved record refers to nothing (`Resolver.extendOf?_of_resolveFrom`), so
that merging onto it is merging alone (`Layout.merged_eq_mergeOnto`).
-/

namespace Dossier

variable {U : Type} [Urls U]

/-! ### Members -/

namespace Pool

variable {pool : Pool} {name : String}

theorem contains_of_get? {record : Fields Json} (h : pool.get? name = some record) :
    pool.contains name = true :=
  Option.isSome_iff_exists.mpr ⟨record, h⟩

theorem contains_eq_false_iff : pool.contains name = false ↔ pool.get? name = none :=
  Option.isSome_eq_false_iff.trans Option.isNone_iff_eq_none

end Pool

namespace Resolver

variable {r : Resolver U} {pool : Pool} {levels : Nat} {chain : List (Place U)} {base : Option U}
  {record : Fields Json} {reference : String} {pass : Pass U}

/-! ### One level -/

theorem resolveFrom_of_plain (h : r.options.layout.extendOf? record = none) :
    r.resolveFrom pool levels chain base record pass = (.ok record, pass) :=
  (Run.plain h).resolveFrom_eq

theorem resolveFrom_of_builtIn (h : r.options.layout.extendOf? record = some reference)
    (hn : Fields.find? pass.resolved reference = none) (hm : pool.get? reference = none)
    (hb : r.options.isBuiltIn reference = true) :
    r.resolveFrom pool levels chain base record pass
      = (.ok (r.options.layout.terminal reference record), pass) :=
  (Run.builtIn h (.builtIn hn hm hb)).resolveFrom_eq

/-- A member already under way is a cycle. -/
theorem resolveFrom_of_cycle {inner : Fields Json}
    (h : r.options.layout.extendOf? record = some reference)
    (hn : Fields.find? pass.resolved reference = none) (hm : pool.get? reference = some inner)
    (hc : reference ∈ chain.map Place.key) :
    r.resolveFrom pool levels chain base record pass
      = (.error (.cycle (chain.map Place.key ++ [reference])), pass) :=
  (Run.cycle h (.member hn hm) hc).resolveFrom_eq

/-- A new member is refused where no levels are left. -/
theorem resolveFrom_of_tooDeep {inner : Fields Json}
    (h : r.options.layout.extendOf? record = some reference)
    (hn : Fields.find? pass.resolved reference = none) (hm : pool.get? reference = some inner)
    (hc : reference ∉ chain.map Place.key) :
    r.resolveFrom pool 0 chain base record pass
      = (.error (.tooDeep reference (r.options.layout.requester record) r.options.maxDepth),
        pass) :=
  (Run.tooDeep h (.member hn hm) hc).resolveFrom_eq

/-- A new member is resolved one level further in, and the record is merged onto what it comes
to. -/
theorem resolveFrom_of_member {inner : Fields Json}
    (h : r.options.layout.extendOf? record = some reference)
    (hn : Fields.find? pass.resolved reference = none) (hm : pool.get? reference = some inner)
    (hc : reference ∉ chain.map Place.key) :
    (r.resolveFrom pool (levels + 1) chain base record pass).1
      = (r.resolveFrom pool levels (chain ++ [.member reference inner]) r.options.baseUrl inner
          (pass.note (.entered (chain ++ [.member reference inner])))).1.map
        fun ancestor => r.options.layout.merged ancestor record := by
  have run := run_resolveFrom r pool levels (chain ++ [.member reference inner]) r.options.baseUrl
    inner (pass.note (.entered (chain ++ [.member reference inner])))
  cases hr : r.resolveFrom pool levels (chain ++ [.member reference inner]) r.options.baseUrl inner
      (pass.note (.entered (chain ++ [.member reference inner]))) with
  | mk outcome after =>
      rw [hr] at run
      cases outcome with
      | error e => rw [(Run.failed h (.member hn hm) hc rfl run).resolveFrom_eq]; rfl
      | ok ancestor => rw [(Run.merged h (.member hn hm) hc rfl run).resolveFrom_eq]; rfl

/-! ### What is left of references -/

/-- A resolved record refers to nothing, wherever its ancestors come from. -/
theorem extendOf?_of_resolveFrom (hl : r.options.layout.Regular) {result : Fields Json}
    (h : (r.resolveFrom pool levels chain base record pass).1 = .ok result) :
    r.options.layout.extendOf? result = none := by
  have run := run_resolveFrom r pool levels chain base record pass
  rw [h] at run
  generalize (r.resolveFrom pool levels chain base record pass).2 = after at run
  cases run with
  | plain refers => exact refers
  | known | merged => exact Layout.extendOf?_merged hl _ _
  | builtIn => exact Layout.extendOf?_terminal hl _ _

end Resolver

/-! ### A resolver that knows the pool alone -/

namespace Options

/-- The resolver of the options that knows the pool alone. -/
def resolver (o : Options U) : Resolver U := ⟨o, none⟩

/-- The failure at a reference that is neither a member nor a built-in. -/
def stray (o : Options U) (record : Fields Json) (reference : String) : ResolveError :=
  if Reference.isRemote reference then .remoteUnsupported reference (o.layout.requester record)
  else .missing reference (o.layout.requester record)

theorem resolveFrom_of_stray {o : Options U} {pool : Pool} {levels : Nat} {chain : List (Place U)}
    {base : Option U} {record : Fields Json} {reference : String} {pass : Pass U}
    (h : o.layout.extendOf? record = some reference)
    (hn : Fields.find? pass.resolved reference = none) (hm : pool.get? reference = none)
    (hb : o.isBuiltIn reference = false) :
    o.resolver.resolveFrom pool levels chain base record pass
      = (.error (o.stray record reference), pass) := by
  have foreign : o.resolver.Foreign pool pass reference := ⟨hn, hm, hb⟩
  cases hr : Reference.isRemote reference with
  | true =>
      rw [stray, hr, if_pos rfl]
      exact (Resolver.Run.astray h (.unsupported foreign hr rfl)).resolveFrom_eq
  | false =>
      rw [stray, hr, if_neg Bool.false_ne_true]
      exact (Resolver.Run.astray h (.missing foreign hr)).resolveFrom_eq

end Options

end Dossier
