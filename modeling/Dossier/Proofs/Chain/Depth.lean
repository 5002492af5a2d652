import Dossier.Proofs.Chain.Carry
import Dossier.Proofs.Chain.Order

/-!
# Chain — the depth is a safety net

The depth of the options decides whether a place may still be entered, and nothing else.  A run that
does not end for want of levels is the same run with more of them: it meets the same places, asks for
the same documents and remembers the same records.

* `Resolver.carries_withMaxDepth`: runs carry over to a greater depth, failures for want of levels
  apart.
* `Resolver.freeOf_tooDeep_resolveCollection`: with the pool alone there is no such failure where the
  depth is the size of the pool.
* `depth_guards`: so a call that comes out in any other way comes out the same with a greater depth;
  and with the pool alone, a depth of the size of the pool is never too small.
-/

namespace Dossier

variable {U : Type} [Urls U]

/-- The failure at a place that would be one too many. -/
def TooDeep : ResolveError → Prop
  | .tooDeep .. => True
  | _ => False

/-- A result is free of the failure when it is no such failure, whatever is called too deep. -/
theorem freeOf_tooDeep {α : Type} {result : Except ResolveError α}
    (h : ∀ called asker limit, result ≠ .error (.tooDeep called asker limit)) :
    FreeOf TooDeep result := by
  intro e he deep
  cases e with
  | tooDeep called asker limit => exact h called asker limit he
  | _ => exact deep

namespace Resolver

/-- The resolver with another depth. -/
def withMaxDepth (r : Resolver U) (maxDepth : Nat) : Resolver U :=
  { r with options := r.options.withMaxDepth maxDepth }

variable {r : Resolver U} {pool : Pool}

/-! ### More levels -/

omit [Urls U] in
theorem Foreign.withMaxDepth {reference : String} {pass : Pass U}
    (foreign : r.Foreign pool pass reference) (d : Nat) :
    (r.withMaxDepth d).Foreign pool pass reference :=
  ⟨foreign.new, foreign.outside, foreign.unlisted⟩

/-- The depth has no part in where a reference leads. -/
theorem Aims.withMaxDepth {base : Option U} {reference requester : String} {pass : Pass U}
    {aim : Except ResolveError (Target U)} (aims : r.Aims pool pass base reference requester aim)
    (d : Nat) : (r.withMaxDepth d).Aims pool pass base reference requester aim := by
  cases aims with
  | remembered known => exact .remembered known
  | member new found => exact .member new found
  | builtIn new outside listed => exact .builtIn new outside listed
  | missing foreign looks => exact .missing (foreign.withMaxDepth d) looks
  | unsupported foreign looks alone => exact .unsupported (foreign.withMaxDepth d) looks alone
  | invalid foreign looks reaches located =>
      exact .invalid (foreign.withMaxDepth d) looks reaches located
  | fetched foreign looks reaches located known =>
      exact .fetched (foreign.withMaxDepth d) looks reaches located known
  | document foreign looks reaches located new =>
      exact .document (foreign.withMaxDepth d) looks reaches located new

/-- **A run that does not end for want of levels is the same run with more of them.** -/
theorem carries_withMaxDepth (r : Resolver U) (pool : Pool) {d d' : Nat} (hd : d ≤ d') :
    Carries TooDeep (r.withMaxDepth d) pool (r.withMaxDepth d') pool where
  options := rfl
  depth := .inr ⟨hd, fun _ _ _ => trivial⟩
  members _ := .inl rfl
  aims aims _ := aims.withMaxDepth d'
  opened {_ _ _ _ place} _ := by cases place <;> rfl

/-! ### As many levels as members -/

/-- With the pool alone, a depth of the size of the pool is enough for every call. -/
theorem freeOf_tooDeep_resolve (alone : r.remote = none) (hl : pool.size ≤ r.options.maxDepth)
    (v : Json) : FreeOf TooDeep (r.resolve pool v).1 := by
  obtain ⟨record, outcome, after, -, run, eq⟩ | eq := resolve_cases r pool v
  · rw [eq]
    refine freeOf_tooDeep fun called asker limit he => ?_
    refine run.ne_tooDeep alone List.nodup_nil (fun _ hp => nomatch hp) ?_ (eq_error_of_map he)
    rwa [List.length_nil, Nat.zero_add]
  · rw [eq]
    exact FreeOf.error_iff.mpr id

theorem freeOf_tooDeep_resolveNamed (alone : r.remote = none)
    (hl : pool.size ≤ r.options.maxDepth) (name : String) :
    FreeOf TooDeep (r.resolveNamed pool name).1 := by
  obtain ⟨record, outcome, after, found, call, eq⟩ | ⟨-, eq⟩ := resolveNamed_cases r pool name
  · rw [eq]
    exact freeOf_tooDeep fun called asker limit he =>
      call.ne_tooDeep alone found hl (eq_error_of_map he)
  · rw [eq]
    exact FreeOf.error_iff.mpr id

theorem freeOf_tooDeep_resolveCollection (alone : r.remote = none)
    (hl : pool.size ≤ r.options.maxDepth) :
    FreeOf TooDeep (r.resolveCollection pool).1 := by
  refine freeOf_tooDeep fun called asker limit he => ?_
  -- a collection fails as one of its members does
  obtain ⟨name, record, before, hm, call⟩ := (row_resolveCollection r pool).exists_failed he
  exact call.ne_tooDeep alone (Fields.find?_of_mem pool.nodup hm) hl rfl

end Resolver

/-- **The depth is a safety net.**  A call that comes out in any way but for want of levels comes out
the same with every greater depth, down to the documents asked for.  And with the pool alone, no call
comes out so where the depth is the size of the pool or more. -/
theorem depth_guards (r : Resolver U) (pool : Pool) :
    (∀ d d', d ≤ d' →
      (∀ v, FreeOf TooDeep ((r.withMaxDepth d).resolve pool v).1 →
        (r.withMaxDepth d').resolve pool v = (r.withMaxDepth d).resolve pool v)
      ∧ (∀ name, FreeOf TooDeep ((r.withMaxDepth d).resolveNamed pool name).1 →
        (r.withMaxDepth d').resolveNamed pool name = (r.withMaxDepth d).resolveNamed pool name)
      ∧ (FreeOf TooDeep ((r.withMaxDepth d).resolveCollection pool).1 →
        (r.withMaxDepth d').resolveCollection pool = (r.withMaxDepth d).resolveCollection pool))
    ∧ (r.remote = none → ∀ d, pool.size ≤ d →
      (∀ v, FreeOf TooDeep ((r.withMaxDepth d).resolve pool v).1)
      ∧ (∀ name, FreeOf TooDeep ((r.withMaxDepth d).resolveNamed pool name).1)
      ∧ FreeOf TooDeep ((r.withMaxDepth d).resolveCollection pool).1) := by
  refine ⟨fun d d' hd => ⟨fun v free => ?_, fun name free => ?_, fun free => ?_⟩,
    fun alone d hl => ⟨fun v => ?_, fun name => ?_, ?_⟩⟩
  · exact (r.carries_withMaxDepth pool hd).resolve_eq free
  · exact (r.carries_withMaxDepth pool hd).resolveNamed_eq free
  · exact (r.carries_withMaxDepth pool hd).resolveCollection_eq free
  · exact (r.withMaxDepth d).freeOf_tooDeep_resolve alone hl v
  · exact (r.withMaxDepth d).freeOf_tooDeep_resolveNamed alone hl name
  · exact (r.withMaxDepth d).freeOf_tooDeep_resolveCollection alone hl

/-- Two levels are enough for three records, one above the other, of which the lowest comes first,
and then any depth is; in whatever order they come, three levels are.  For a page that has four
ancestors five levels are, and sixty-four find the same documents. -/
theorem depth_guards_stairs :
    let standard : Resolver Url := Options.standard.resolver
    let shallow := standard.withMaxDepth 2
    let page := Gallery.resolver.withMaxDepth 5
    FreeOf TooDeep (shallow.resolveCollection stairsBack).1
      ∧ standard.resolveCollection stairsBack = shallow.resolveCollection stairsBack
      ∧ (shallow.resolveCollection stairs).1 = .error (.tooDeep "C" "B" 2)
      ∧ FreeOf TooDeep ((shallow.withMaxDepth 3).resolveCollection stairs).1
      ∧ FreeOf TooDeep (page.resolveNamed Gallery.pool "Hero").1
      ∧ Gallery.resolver.resolveNamed Gallery.pool "Hero"
        = page.resolveNamed Gallery.pool "Hero" := by
  intro standard shallow page
  obtain ⟨back, -⟩ := depth_guards standard stairsBack
  obtain ⟨-, any⟩ := depth_guards standard stairs
  obtain ⟨hero, -⟩ := depth_guards Gallery.resolver Gallery.pool
  have two : FreeOf TooDeep (shallow.resolveCollection stairsBack).1 := .of_isOk rfl
  have five : FreeOf TooDeep (page.resolveNamed Gallery.pool "Hero").1 :=
    .of_isOk (by decide +kernel)
  exact ⟨two, (back 2 64 (by decide)).2.2 two, rfl, (any rfl 3 (by decide)).2.2, five,
    (hero 5 64 (by decide)).2.1 "Hero" five⟩

end Dossier
