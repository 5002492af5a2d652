import Dossier.Proofs.Chain.Calls

/-!
# Chain — runs that carry over

Two resolvers, each with a pool of its own, run in lockstep as long as references lead both of them
to the same places.  Failures of some kind may be left out: what comes to one of them is not carried
over, and nothing is said of it.

* `Resolver.Carries`: a reference leads the second resolver where it leads the first, and the place
  opens there in the same way.
* `Resolver.Run.carried`, `Resolver.Row.carried`: so a run of the first, and a row of its members, is
  one of the second unless it ends in a failure of the kind.
* `Resolver.Carries.resolve_eq`, `Resolver.Carries.resolveNamed_eq`,
  `Resolver.Carries.resolveCollection_eq`: and so calls come out the same, down to the pass.
-/

namespace Dossier

variable {U : Type} [Urls U]

namespace Resolver

/-- As many levels, or more where failures for want of levels are of the kind. -/
def Spare (kind : ResolveError → Prop) (levels more : Nat) : Prop :=
  levels = more ∨ levels ≤ more ∧ ∀ called asker limit, kind (.tooDeep called asker limit)

section Spare

variable {kind : ResolveError → Prop} {levels more : Nat}

theorem Spare.succ (h : Spare kind (levels + 1) more) :
    ∃ rest, more = rest + 1 ∧ Spare kind levels rest := by
  obtain rfl | ⟨hl, deep⟩ := h
  · exact ⟨levels, rfl, .inl rfl⟩
  · obtain ⟨rest, rfl⟩ := Nat.exists_eq_add_of_lt hl
    exact ⟨levels + rest, rfl, .inr ⟨Nat.le_add_right .., deep⟩⟩

theorem Spare.eq {called asker : String} {limit : Nat} (h : Spare kind levels more)
    (free : ¬ kind (.tooDeep called asker limit)) : more = levels :=
  h.elim Eq.symm fun h => absurd (h.2 called asker limit) free

end Spare

/-- The resolver `r'` with the pool `q` meets what `r` meets with `p`, failures of the kind apart. -/
structure Carries (kind : ResolveError → Prop) (r : Resolver U) (p : Pool) (r' : Resolver U)
    (q : Pool) : Prop where
  /-- The options differ in the depth at most. -/
  options : r'.options = r.options.withMaxDepth r'.options.maxDepth
  depth : Spare kind r.options.maxDepth r'.options.maxDepth
  /-- A name has the same record, or none of its own where unknown names are failures of the kind. -/
  members (name : String) :
    q.get? name = p.get? name ∨ p.get? name = none ∧ kind (.unknownRecord name)
  aims {pass : Pass U} {base : Option U} {reference requester : String}
    {aim : Except ResolveError (Target U)} :
    r.Aims p pass base reference requester aim → FreeOf kind aim →
      r'.Aims q pass base reference requester aim
  opened {pass : Pass U} {base : Option U} {reference requester : String} {place : Place U} :
    r.Aims p pass base reference requester (.ok (.place place)) → r'.opened place = r.opened place

variable {kind : ResolveError → Prop} {r r' : Resolver U} {p q : Pool} {levels more : Nat}
  {chain : List (Place U)} {base : Option U} {record : Fields Json} {name : String}
  {records : List (String × Fields Json)} {pass after : Pass U}

theorem Carries.exists_eq (c : Carries kind r p r' q) :
    ∃ d remote, r' = ⟨r.options.withMaxDepth d, remote⟩ := by
  obtain ⟨options, remote⟩ := r'
  exact ⟨options.maxDepth, remote, by rw [← c.options]⟩

/-- **A run carries over unless it ends in a failure of the kind.** -/
theorem Run.carried {outcome : Except ResolveError (Fields Json)}
    (run : r.Run p levels chain base record pass outcome after) (c : Carries kind r p r' q)
    (free : FreeOf kind outcome) (spare : Spare kind levels more) :
    r'.Run q more chain base record pass outcome after := by
  obtain ⟨d, remote, rfl⟩ := c.exists_eq
  induction run generalizing more with
  | plain refers => exact .plain refers
  | astray refers aims => exact .astray refers (c.aims aims free.error)
  | known refers aims => exact .known refers (c.aims aims (.of_ok _))
  | builtIn refers aims => exact .builtIn refers (c.aims aims (.of_ok _))
  | cycle refers aims again => exact .cycle refers (c.aims aims (.of_ok _)) again
  | tooDeep refers aims new =>
      -- the depth, which the failure tells, is the same
      have flat := FreeOf.error_iff.mp free
      obtain rfl := spare.eq flat
      rw [← c.depth.eq flat]
      exact .tooDeep refers (c.aims aims (.of_ok _)) new
  | unopened refers aims new opens =>
      obtain ⟨rest, rfl, -⟩ := spare.succ
      rw [← c.opened aims] at opens
      exact .unopened refers (c.aims aims (.of_ok _)) new opens
  | failed refers aims new opens run ih =>
      obtain ⟨rest, rfl, further⟩ := spare.succ
      rw [← c.opened aims] at opens
      exact .failed refers (c.aims aims (.of_ok _)) new opens (ih free further)
  | merged refers aims new opens run ih =>
      obtain ⟨rest, rfl, further⟩ := spare.succ
      rw [← c.opened aims] at opens
      exact .merged refers (c.aims aims (.of_ok _)) new opens (ih (.of_ok _) further)

/-! ### Members and rows of them -/

section

variable {outcome : Except ResolveError (Fields Json)}

theorem Call.carried (call : r.Call p name record pass outcome after) (c : Carries kind r p r' q)
    (free : FreeOf kind outcome) : r'.Call q name record pass outcome after := by
  have depth := c.depth
  cases call with
  | refused flat => exact .refused ((depth.eq (FreeOf.error_iff.mp free)).trans flat)
  | entered deep run =>
      rw [deep] at depth
      obtain ⟨rest, deep', spare⟩ := depth.succ
      have run' := run.carried c free spare
      obtain ⟨d, remote, rfl⟩ := c.exists_eq
      exact .entered deep' run'

theorem Turn.carried (turn : r.Turn p name record pass outcome after) (c : Carries kind r p r' q)
    (free : FreeOf kind outcome) : r'.Turn q name record pass outcome after := by
  cases turn with
  | known known => exact .known known
  | failed new call => exact .failed new (call.carried c free)
  | resolved new call => exact .resolved new (call.carried c free)

end

/-- What a row of members remembers from one to the next is the same for both. -/
theorem Row.carried {outcome : Except ResolveError (List Json)}
    (row : r.Row p records pass outcome after) (c : Carries kind r p r' q)
    (free : FreeOf kind outcome) : r'.Row q records pass outcome after := by
  induction row with
  | nil => exact .nil
  | stopped turn => exact .stopped (turn.carried c free.error)
  | failed turn row ih => exact .failed (turn.carried c (.of_ok _)) (ih free)
  | cons turn row ih => exact .cons (turn.carried c (.of_ok _)) (ih (.of_ok _))

/-! ### Calls -/

namespace Carries

theorem resolveRecord_eq (c : Carries kind r p r' q)
    (free : FreeOf kind (r.resolveRecord p record pass).1) :
    r'.resolveRecord q record pass = r.resolveRecord p record pass := by
  rw [resolveRecord_def] at free
  have run := (run_resolveFrom r p r.options.maxDepth [] r.options.baseUrl record pass).carried c
    free c.depth
  obtain ⟨d, remote, rfl⟩ := c.exists_eq
  rw [resolveRecord_def, resolveRecord_def]
  exact run.resolveFrom_eq

theorem resolveMember_eq (c : Carries kind r p r' q)
    (free : FreeOf kind (r.resolveMember p name record pass).1) :
    r'.resolveMember q name record pass = r.resolveMember p name record pass :=
  ((call_resolveMember r p name record pass).carried c free).resolveMember_eq

theorem resolve_eq (c : Carries kind r p r' q) {v : Json} (free : FreeOf kind (r.resolve p v).1) :
    r'.resolve q v = r.resolve p v := by
  rw [resolve_def] at free
  rw [resolve_def, resolve_def]
  cases v with
  | obj record =>
      dsimp only at free ⊢
      rw [c.resolveRecord_eq free.of_map]
  | _ => rfl

theorem resolveNamed_eq (c : Carries kind r p r' q) (free : FreeOf kind (r.resolveNamed p name).1) :
    r'.resolveNamed q name = r.resolveNamed p name := by
  rw [resolveNamed_def] at free
  rw [resolveNamed_def, resolveNamed_def]
  cases found : p.get? name with
  | none =>
      rw [found] at free
      obtain same | ⟨-, unknown⟩ := c.members name
      · rw [same, found]
      · exact absurd unknown (FreeOf.error_iff.mp free)
  | some record =>
      rw [found] at free
      obtain same | ⟨outside, -⟩ := c.members name
      · rw [same, found]
        dsimp only at free ⊢
        rw [c.resolveMember_eq free.of_map]
      · cases found.symm.trans outside

theorem resolveCollection_eq (c : Carries kind r p r' p)
    (free : FreeOf kind (r.resolveCollection p).1) :
    r'.resolveCollection p = r.resolveCollection p := by
  rw [resolveCollection_def] at free
  rw [resolveCollection_def, resolveCollection_def]
  exact ((row_resolveEach r p p.records .start).carried c free).resolveEach_eq

end Carries

end Resolver

end Dossier
