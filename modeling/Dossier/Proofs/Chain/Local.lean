import Dossier.Proofs.Chain.Carry
import Dossier.Proofs.Chain.Lineage

/-!
# Chain — the two resolvers side by side

The resolver that knows the pool alone and the one that can fetch are written one apart from the
other.  Both run as `Run` says, and this is what they are compared by: the first fails as soon as it
comes to a remote reference, and where it does not fail so, the second has nothing to fetch and runs
in the same way.

* `Resolver.carries_reaching`: a run with the pool alone is a run of a resolver that can fetch,
  unless it fails at a remote reference.
* `Resolver.Run.requests_eq`: with the pool alone nothing is asked for.
* `Resolver.Run.supported`: a resolver that can fetch never fails for want of that.
* `resolver_agrees`: so the two resolvers agree on records, members and collections.
-/

namespace Dossier

variable {U : Type} [Urls U]

/-- The resolver of the options that knows the pool alone. -/
def Options.alone (o : Options U) : LocalResolver U := ⟨o⟩

/-- The resolver of the options that can fetch. -/
def Options.reaching (o : Options U) (remote : Remote U) : RemoteResolver U := ⟨o, remote⟩

/-- The failure of a resolver that cannot fetch. -/
def Unsupported : ResolveError → Prop
  | .remoteUnsupported .. => True
  | _ => False

/-- A result that is not the failure of a resolver that cannot fetch. -/
def Supported {α : Type} (result : Except ResolveError α) : Prop :=
  ∀ reference requester, result ≠ .error (.remoteUnsupported reference requester)

theorem Supported.of_ok {α : Type} (a : α) : Supported (.ok a) := fun _ _ h => nomatch h

theorem supported_iff {α : Type} {result : Except ResolveError α} :
    Supported result ↔ FreeOf Unsupported result := by
  constructor
  · rintro h e rfl kind
    cases e with
    | remoteUnsupported reference requester => exact h reference requester rfl
    | _ => exact kind
  · rintro h reference requester rfl
    exact FreeOf.error_iff.mp h trivial

theorem Supported.map {α β : Type} {result : Except ResolveError α} (h : Supported result)
    (f : α → β) : Supported (result.map f) :=
  fun reference requester he => h reference requester (Resolver.eq_error_of_map he)

namespace Resolver

variable {o : Options U} {remote : Remote U} {pool : Pool} {levels : Nat} {chain : List (Place U)}
  {base : Option U} {record : Fields Json} {reference requester : String} {pass after : Pass U}

/-! ### Runs -/

theorem Aims.reaching {aim : Except ResolveError (Target U)}
    (aims : o.resolver.Aims pool pass base reference requester aim) (free : FreeOf Unsupported aim)
    (remote : Remote U) : Aims ⟨o, some remote⟩ pool pass base reference requester aim := by
  cases aims with
  | remembered known => exact .remembered known
  | member new found => exact .member new found
  | builtIn new outside listed => exact .builtIn new outside listed
  | missing foreign looks => exact .missing ⟨foreign.new, foreign.outside, foreign.unlisted⟩ looks
  | unsupported => exact absurd trivial (FreeOf.error_iff.mp free)
  | invalid foreign looks reaches | fetched foreign looks reaches
  | document foreign looks reaches => cases reaches

/-- With the pool alone a reference leads to no place but a member. -/
theorem Aims.exists_member {place : Place U}
    (aims : o.resolver.Aims pool pass base reference requester (.ok (.place place))) :
    ∃ inner, place = .member reference inner := by
  cases aims with
  | @member inner new found => exact ⟨inner, rfl⟩
  | document foreign looks reaches => cases reaches

/-- **A run with the pool alone is one of a resolver that can fetch**, unless it fails at a remote
reference. -/
theorem carries_reaching (o : Options U) (remote : Remote U) (pool : Pool) :
    Carries Unsupported o.resolver pool ⟨o, some remote⟩ pool where
  options := rfl
  depth := .inl rfl
  members _ := .inl rfl
  aims aims free := aims.reaching free remote
  opened aims := by
    obtain ⟨inner, rfl⟩ := aims.exists_member
    rfl

/-- With the pool alone nothing is asked for. -/
theorem Run.requests_eq {outcome : Except ResolveError (Fields Json)}
    (run : o.resolver.Run pool levels chain base record pass outcome after) :
    after.requests = pass.requests := by
  induction run with
  | plain | astray | known | builtIn | cycle | tooDeep => rfl
  | unopened refers aims new opens =>
      obtain ⟨inner, rfl⟩ := aims.exists_member
      cases opens
  | failed refers aims new opens run ih =>
      obtain ⟨inner, rfl⟩ := aims.exists_member
      cases opens
      rw [ih, Pass.requests_note_entered]
  | merged refers aims new opens run ih =>
      obtain ⟨inner, rfl⟩ := aims.exists_member
      cases opens
      rw [Pass.requests_remember, ih, Pass.requests_note_entered]

/-- **A resolver that can fetch never fails for want of that.** -/
theorem Run.supported {outcome : Except ResolveError (Fields Json)}
    (run : Run ⟨o, some remote⟩ pool levels chain base record pass outcome after) :
    Supported outcome := by
  induction run with
  | plain | known | builtIn | merged => exact .of_ok _
  | cycle | tooDeep => nofun
  | astray refers aims =>
      cases aims with
      | missing | invalid => nofun
      | unsupported foreign looks alone => cases alone
  | unopened refers aims new opens =>
      cases aims with
      | member => cases opens
      | document =>
          -- what is received is the record, or that it cannot be fetched, or that it is refused
          rw [opened_document rfl] at opens
          have fails := eq_error_of_map (congrArg Prod.fst opens)
          unfold received at fails
          split at fails
          · cases fails
            nofun
          · split at fails
            · split at fails <;> cases fails
              nofun
            · cases fails
              nofun
  | failed refers aims new opens run ih => exact supported_iff.mpr (supported_iff.mp ih).error

/-! ### Members -/

section

variable {name : String} {outcome : Except ResolveError (Fields Json)}

theorem Call.requests_eq (call : o.resolver.Call pool name record pass outcome after) :
    after.requests = pass.requests := by
  cases call with
  | refused => rfl
  | entered deep run => exact run.requests_eq.trans (Pass.requests_note_entered ..)

theorem Turn.requests_eq (turn : o.resolver.Turn pool name record pass outcome after) :
    after.requests = pass.requests := by
  cases turn with
  | known => rfl
  | failed new call => exact call.requests_eq
  | resolved new call => exact (Pass.requests_remember ..).trans call.requests_eq

theorem Call.supported (call : Call ⟨o, some remote⟩ pool name record pass outcome after) :
    Supported outcome := by
  cases call with
  | refused => nofun
  | entered deep run => exact run.supported

end

section

variable {records : List (String × Fields Json)} {outcome : Except ResolveError (List Json)}

theorem Row.requests_eq (row : o.resolver.Row pool records pass outcome after) :
    after.requests = pass.requests := by
  induction row with
  | nil => rfl
  | stopped turn => exact turn.requests_eq
  | failed turn row ih | cons turn row ih => exact ih.trans turn.requests_eq

theorem Row.supported (row : Row ⟨o, some remote⟩ pool records pass outcome after) :
    Supported outcome := by
  rintro reference requester he
  obtain ⟨name, record, before, -, call⟩ := row.exists_failed he
  exact call.supported _ _ rfl

end

/-! ### Calls -/

theorem supported_resolve (o : Options U) (remote : Remote U) (pool : Pool) (v : Json) :
    Supported (resolve ⟨o, some remote⟩ pool v).1 := by
  obtain ⟨record, outcome, after, -, run, eq⟩ | eq := resolve_cases ⟨o, some remote⟩ pool v
  · rw [eq]
    exact run.supported.map _
  · rw [eq]
    nofun

theorem supported_resolveNamed (o : Options U) (remote : Remote U) (pool : Pool) (name : String) :
    Supported (resolveNamed ⟨o, some remote⟩ pool name).1 := by
  obtain ⟨record, outcome, after, -, call, eq⟩ | ⟨-, eq⟩ :=
    resolveNamed_cases ⟨o, some remote⟩ pool name
  · rw [eq]
    exact call.supported.map _
  · rw [eq]
    nofun

theorem requests_resolve (o : Options U) (pool : Pool) (v : Json) :
    (o.resolver.resolve pool v).2.requests = [] := by
  obtain ⟨record, outcome, after, -, run, eq⟩ | eq := resolve_cases o.resolver pool v
  · rw [eq]
    exact run.requests_eq
  · rw [eq]
    rfl

theorem requests_resolveNamed (o : Options U) (pool : Pool) (name : String) :
    (o.resolver.resolveNamed pool name).2.requests = [] := by
  obtain ⟨record, outcome, after, -, call, eq⟩ | ⟨-, eq⟩ := resolveNamed_cases o.resolver pool name
  · rw [eq]
    exact call.requests_eq
  · rw [eq]
    rfl

theorem requests_resolveCollection (o : Options U) (pool : Pool) :
    (o.resolver.resolveCollection pool).2.requests = [] :=
  (row_resolveCollection o.resolver pool).requests_eq

end Resolver

/-- **Where the pool alone is enough, a resolver that can fetch comes out the same**: with the same
record or records, or the same failure, and with nothing asked for.  The pool alone is not enough
only for a remote reference, and that is no failure of a resolver that can fetch. -/
theorem resolver_agrees (o : Options U) (remote : Remote U) (pool : Pool) :
    (∀ v, Supported ((o.reaching remote).resolve pool v).1
      ∧ (Supported (o.alone.resolve pool v).1 →
        ((o.reaching remote).resolve pool v).1 = (o.alone.resolve pool v).1
          ∧ ((o.reaching remote).resolve pool v).2.requests = []))
    ∧ (∀ name, Supported ((o.reaching remote).resolveNamed pool name).1
      ∧ (Supported (o.alone.resolveNamed pool name).1 →
        ((o.reaching remote).resolveNamed pool name).1 = (o.alone.resolveNamed pool name).1
          ∧ ((o.reaching remote).resolveNamed pool name).2.requests = []))
    ∧ Supported ((o.reaching remote).resolveCollection pool).1
    ∧ (Supported (o.alone.resolveCollection pool).1 →
      ((o.reaching remote).resolveCollection pool).1 = (o.alone.resolveCollection pool).1
        ∧ ((o.reaching remote).resolveCollection pool).2.requests = []) := by
  have carries := Resolver.carries_reaching o remote pool
  refine ⟨fun v => ⟨Resolver.supported_resolve o remote pool v, fun h => ?_⟩,
    fun name => ⟨Resolver.supported_resolveNamed o remote pool name, fun h => ?_⟩,
    (Resolver.row_resolveCollection ⟨o, some remote⟩ pool).supported, fun h => ?_⟩
  · have same : (o.reaching remote).resolve pool v = o.alone.resolve pool v :=
      carries.resolve_eq (supported_iff.mp h)
    rw [same]
    exact ⟨rfl, Resolver.requests_resolve o pool v⟩
  · have same : (o.reaching remote).resolveNamed pool name = o.alone.resolveNamed pool name :=
      carries.resolveNamed_eq (supported_iff.mp h)
    rw [same]
    exact ⟨rfl, Resolver.requests_resolveNamed o pool name⟩
  · have same : (o.reaching remote).resolveCollection pool = o.alone.resolveCollection pool :=
      carries.resolveCollection_eq (supported_iff.mp h)
    rw [same]
    exact ⟨rfl, Resolver.requests_resolveCollection o pool⟩

/-- A remote on which no document is found. -/
def Remote.barren : Remote Url :=
  ⟨.empty, .mk 0 "Page" [], fun _ url => .error (.status url.text 404)⟩

theorem resolver_agrees_boxes :
    Supported (Options.markup.alone.resolveCollection boxes).1
      ∧ ((Options.markup.reaching .barren).resolveCollection boxes).1 = .ok
        [.obj [("name", .str "div"), ("content", .arr [.str "inner"])],
          .obj [("name", .str "div"), ("content", .arr [.str "inner", .str "more"]),
            ("style", .obj [("color", .str "red")])]]
      ∧ ((Options.markup.reaching .barren).resolveCollection boxes).2.requests = [] := by
  have alone : (Options.markup.alone.resolveCollection boxes).1 = .ok
      [.obj [("name", .str "div"), ("content", .arr [.str "inner"])],
        .obj [("name", .str "div"), ("content", .arr [.str "inner", .str "more"]),
          ("style", .obj [("color", .str "red")])]] := rfl
  have supported : Supported (Options.markup.alone.resolveCollection boxes).1 := by
    rw [alone]
    exact .of_ok _
  have ⟨same, silent⟩ := (resolver_agrees .markup .barren boxes).2.2.2 supported
  exact ⟨supported, same.trans alone, silent⟩

end Dossier
