import Mathlib.Data.List.Induction
import Mathlib.Data.String.Basic
import Dossier.Proofs.Schema.Registry

/-!
# Registry — many callers at once

Callers that share a registry take their steps in any order.  A registration looks its name up and,
when nothing is found, inserts its schema in a second step; another registration of the name may come
between the two.  Every other call is one step.

* `Registry.Caller.Stepped`: what a step does.  It reads the registry, or it misses a name, or it is a
  whole `Registry.register` of the schema whose name was missed before.
* `Registry.Shared.Sound.step`, `Registry.Shared.Sound.run`: each step, and so every sequence of steps,
  keeps that what is bound was an argument of a registration, and that what a registration gave is what
  its name is bound to.
* `Registry.Shared.answered`: each call gives what it would give by itself at the moment of its last
  step.
* `registering_interleaved`: so a name is bound once, and all that ask for it see one schema.
-/

namespace Dossier

namespace Registry

/-! ### The names that are bound -/

theorem mem_names_iff (r : Registry) (name : String) :
    name ∈ r.names ↔ ∃ s, r.get? name = some s := by
  rw [names, List.mem_mergeSort, ← Option.ne_none_iff_exists', ne_eq, get?_eq_none_iff,
    Classical.not_not]

/-- The names are listed in strictly increasing order. -/
theorem pairwise_names (r : Registry) : r.names.Pairwise (· < ·) := by
  have sorted : r.names.Pairwise fun a b => decide (a ≤ b) = true :=
    List.pairwise_mergeSort (by simpa using fun _ _ _ => le_trans) (by simpa using le_total) _
  have different : r.names.Nodup := (List.mergeSort_perm _ _).nodup_iff.mpr r.nodup
  refine (sorted.and different).imp fun ⟨le, ne⟩ => ?_
  exact lt_of_le_of_ne (of_decide_eq_true le) ne

/-! ### The steps of one caller -/

/-- A call on a registry. -/
inductive Call where
  | register (schema : Schema)
  | get (name : String)
  | contains (name : String)
  | names

/-- What a call gives. -/
inductive Answer where
  | kept (schema : Schema)
  | found (schema? : Option Schema)
  | held (isHeld : Bool)
  | listed (names : List String)

/-- What the call gives when it is made all at once. -/
def Call.answer (r : Registry) : Call → Answer
  | .register s => .kept (r.register s).1
  | .get name => .found (r.get? name)
  | .contains name => .held (r.contains name)
  | .names => .listed r.names

/-- How far a caller has come. -/
inductive Caller where
  | calling (call : Call)
  /-- A registration whose look-up has found nothing. -/
  | missed (schema : Schema)
  | returned (call : Call) (answer : Answer)

namespace Caller

def call : Caller → Call
  | .calling call => call
  | .missed s => .register s
  | .returned call _ => call

/-- The caller after its next step, and the registry. -/
def step (r : Registry) : Caller → Caller × Registry
  | .calling (.register s) =>
    match r.get? s.name with
    | some kept => (.returned (.register s) (.kept kept), r)
    | none => (.missed s, r)
  | .calling (.get name) => (.returned (.get name) (.found (r.get? name)), r)
  | .calling (.contains name) => (.returned (.contains name) (.held (r.contains name)), r)
  | .calling .names => (.returned .names (.listed r.names), r)
  | .missed s =>
    let (kept, grown) := r.insertIfAbsent s
    (.returned (.register s) (.kept kept), grown)
  | .returned call answer => (.returned call answer, r)

/-- What a step does. -/
inductive Stepped (r : Registry) : Caller → Caller → Registry → Prop where
  | reads {call : Call} (h : ∀ s, call ≠ .register s) :
      Stepped r (.calling call) (.returned call (call.answer r)) r
  | finds {s kept : Schema} (h : r.get? s.name = some kept) :
      Stepped r (.calling (.register s)) (.returned (.register s) (.kept kept)) r
  | misses (s : Schema) : Stepped r (.calling (.register s)) (.missed s) r
  /-- The name is looked up once more, so it does not matter who has come between. -/
  | registers (s : Schema) :
      Stepped r (.missed s) (.returned (.register s) (.kept (r.register s).1)) (r.register s).2
  | rests (call : Call) (answer : Answer) :
      Stepped r (.returned call answer) (.returned call answer) r

theorem stepped_step (r : Registry) (c : Caller) : c.Stepped r (c.step r).1 (c.step r).2 := by
  cases c with
  | calling call =>
      cases call with
      | register s =>
          rw [step]
          split
          · next found => exact .finds found
          · exact .misses s
      | get name => exact .reads fun s => Call.noConfusion
      | contains name => exact .reads fun s => Call.noConfusion
      | names => exact .reads fun s => Call.noConfusion
  | missed s =>
      rw [step, ← register_eq]
      exact .registers s
  | returned call answer => exact .rests call answer

/-- After how many steps at most the caller has returned. -/
def left : Caller → Nat
  | .calling _ => 2
  | .missed _ => 1
  | .returned _ _ => 0

theorem exists_eq_returned {c : Caller} (h : c.left = 0) : ∃ answer, c = .returned c.call answer := by
  cases c with
  | calling call => cases h
  | missed s => cases h
  | returned call answer => exact ⟨answer, rfl⟩

namespace Stepped

variable {r r' : Registry} {c c' : Caller}

theorem call_eq (h : c.Stepped r c' r') : c'.call = c.call := by
  cases h <;> rfl

theorem left_le (h : c.Stepped r c' r') : c'.left ≤ c.left - 1 := by
  cases h with
  | misses s => exact Nat.le_refl 1
  | _ => exact Nat.zero_le _

theorem extend (h : c.Stepped r c' r') : r.Extends r' := by
  cases h with
  | registers s => exact r.extends_register s
  | _ => exact .refl r

/-- A step binds no name but that of a schema to be registered. -/
theorem bound (h : c.Stepped r c' r') {name : String} {s : Schema} (hs : r'.get? name = some s) :
    r.get? name = some s ∨ c.call = .register s := by
  cases h with
  | registers t =>
      rw [get?_register, Option.or_eq_some_iff] at hs
      rcases hs with hs | ⟨-, hs⟩
      · exact .inl hs
      · obtain ⟨-, same⟩ := Option.ite_none_right_eq_some.mp hs
        exact .inr (congrArg Call.register (Option.some.inj same))
  | _ => exact .inl hs

end Stepped

end Caller

/-! ### The steps of all callers -/

/-- A registry and its callers. -/
structure Shared where
  registry : Registry
  callers : List Caller

namespace Shared

/-- The caller at a place takes its next step. -/
def step (s : Shared) (place : Nat) : Shared :=
  match s.callers[place]? with
  | some c => ⟨(c.step s.registry).2, s.callers.set place (c.step s.registry).1⟩
  | none => s

/-- The callers at the given places take a step, one after the other. -/
def run (s : Shared) (places : List Nat) : Shared := places.foldl step s

/-- An empty registry with a caller for each call. -/
def start (calls : List Call) : Shared := ⟨.empty, calls.map .calling⟩

/-- What the calls have come to after steps of the callers at the given places. -/
def after (calls : List Call) (places : List Nat) : Shared := (start calls).run places

variable {s : Shared} {calls : List Call}

/-- Nobody is at the place, or the caller there does its step and the others stay as they are. -/
theorem step_cases (s : Shared) (place : Nat) :
    (s.callers[place]? = none ∧ s.step place = s)
    ∨ ∃ c c' r', s.callers[place]? = some c ∧ c.Stepped s.registry c' r'
        ∧ s.step place = ⟨r', s.callers.set place c'⟩ := by
  rw [step]
  split
  · next c here => exact .inr ⟨c, _, _, here, c.stepped_step s.registry, rfl⟩
  · next nobody => exact .inl ⟨nobody, rfl⟩

theorem getElem?_set_of_some {callers : List Caller} {place : Nat} {c : Caller}
    (h : callers[place]? = some c) (c' : Caller) : (callers.set place c')[place]? = some c' := by
  rw [List.getElem?_set_self', h, Option.map_eq_map, Option.map_some, Function.const]

theorem extends_step (s : Shared) (place : Nat) : s.registry.Extends (s.step place).registry := by
  rcases s.step_cases place with ⟨-, same⟩ | ⟨c, c', r', -, stepped, next⟩
  · rw [same]
    exact .refl s.registry
  · rw [next]
    exact stepped.extend

theorem extends_run (s : Shared) (places : List Nat) : s.registry.Extends (s.run places).registry := by
  induction places generalizing s with
  | nil => exact .refl s.registry
  | cons place rest ih => exact (s.extends_step place).trans (ih _)

/-- What is bound stays bound. -/
theorem extends_after (calls : List Call) {before places : List Nat} (h : before <+: places) :
    (after calls before).registry.Extends (after calls places).registry := by
  obtain ⟨later, rfl⟩ := h
  rw [after, after, run, run, List.foldl_append]
  exact extends_run _ later

/-- What is bound was the argument of a registration, and every registration that has returned gave
what its name is bound to. -/
structure Sound (calls : List Call) (s : Shared) : Prop where
  called {c : Caller} : c ∈ s.callers → c.call ∈ calls
  bound {name : String} {t : Schema} : s.registry.get? name = some t → .register t ∈ calls
  kept {t : Schema} {answer : Answer} : .returned (.register t) answer ∈ s.callers →
    ∃ kept, answer = .kept kept ∧ s.registry.get? t.name = some kept

theorem sound_start (calls : List Call) : (start calls).Sound calls where
  called hc := by
    obtain ⟨call, member, rfl⟩ := List.mem_map.mp hc
    exact member
  bound ht := by cases ht
  kept ht := by
    obtain ⟨call, -, eq⟩ := List.mem_map.mp ht
    cases eq

/-- **Every step keeps what callers may rely on.** -/
theorem Sound.step (h : s.Sound calls) (place : Nat) : (s.step place).Sound calls := by
  rcases s.step_cases place with ⟨-, same⟩ | ⟨c, c', r', here, stepped, next⟩
  · rwa [same]
  · have argument : c.call ∈ calls := h.called (List.mem_of_getElem? here)
    rw [next]
    refine ⟨fun hd => ?_, fun ht => ?_, fun ht => ?_⟩
    · rcases List.mem_or_eq_of_mem_set hd with hd | rfl
      · exact h.called hd
      · rwa [stepped.call_eq]
    · rcases stepped.bound ht with ht | registered
      · exact h.bound ht
      · rwa [← registered]
    · rcases List.mem_or_eq_of_mem_set ht with ht | rfl
      · obtain ⟨kept, answer_eq, bound⟩ := h.kept ht
        exact ⟨kept, answer_eq, stepped.extend _ _ bound⟩
      · cases stepped with
        | reads other => exact absurd rfl (other _)
        | finds found => exact ⟨_, rfl, found⟩
        | registers => exact ⟨_, rfl, s.registry.get?_register_self _⟩
        | rests => exact h.kept (List.mem_of_getElem? here)

theorem Sound.run (h : s.Sound calls) (places : List Nat) : (s.run places).Sound calls := by
  induction places generalizing s with
  | nil => exact h
  | cons place rest ih => exact ih (h.step place)

theorem run_concat (s : Shared) (places : List Nat) (place : Nat) :
    s.run (places ++ [place]) = (s.run places).step place :=
  List.foldl_concat ..

/-- **Each call is answered all at once**, namely at the moment of the last step of its caller. -/
theorem answered {places : List Nat} {place : Nat} {call : Call} {answer : Answer}
    (h : (after calls places).callers[place]? = some (.returned call answer)) :
    ∃ before, before ++ [place] <+: places ∧ answer = call.answer (after calls before).registry := by
  induction places using List.reverseRecOn with
  | nil => simp [after, run, start] at h
  | append_singleton places moved ih =>
      have earlier (h : (after calls places).callers[place]? = some (.returned call answer)) :
          ∃ before, before ++ [place] <+: places ++ [moved]
            ∧ answer = call.answer (after calls before).registry := by
        obtain ⟨before, is_prefix, answer_eq⟩ := ih h
        exact ⟨before, is_prefix.trans (List.prefix_append ..), answer_eq⟩
      rw [after, run_concat, ← after] at h
      rcases (after calls places).step_cases moved with
        ⟨-, same⟩ | ⟨c, c', r', here, stepped, next⟩
      · exact earlier (same ▸ h)
      · rw [next] at h
        by_cases own : moved = place
        · subst own
          rw [getElem?_set_of_some here, Option.some.injEq] at h
          subst h
          cases stepped with
          | reads other => exact ⟨places, List.prefix_rfl, rfl⟩
          | finds found =>
              refine ⟨places, List.prefix_rfl, ?_⟩
              rw [Call.answer, register_of_get? found]
          | registers t => exact ⟨places, List.prefix_rfl, rfl⟩
          | rests => exact earlier here
        · rw [List.getElem?_set_ne own] at h
          exact earlier h

/-- A caller keeps its call, and a step that it takes brings it nearer to its return. -/
theorem exists_caller_step {place : Nat} {c : Caller} (h : s.callers[place]? = some c) (moved : Nat) :
    ∃ d, (s.step moved).callers[place]? = some d ∧ d.call = c.call
      ∧ d.left ≤ c.left - [moved].count place := by
  rcases s.step_cases moved with ⟨nobody, same⟩ | ⟨c₀, c', r', here, stepped, next⟩
  · have other : moved ≠ place := by
      rintro rfl
      cases nobody.symm.trans h
    exact ⟨c, by rwa [same], rfl, by simp [other]⟩
  · rw [next]
    by_cases own : moved = place
    · subst own
      obtain rfl : c₀ = c := Option.some.inj (here.symm.trans h)
      exact ⟨c', getElem?_set_of_some h c', stepped.call_eq, by simpa using stepped.left_le⟩
    · exact ⟨c, (List.getElem?_set_ne own).trans h, rfl, by simp [own]⟩

theorem exists_caller_run {place : Nat} {c : Caller} (h : s.callers[place]? = some c)
    (places : List Nat) :
    ∃ d, (s.run places).callers[place]? = some d ∧ d.call = c.call
      ∧ d.left ≤ c.left - places.count place := by
  induction places generalizing s c with
  | nil => exact ⟨c, h, rfl, Nat.le_refl _⟩
  | cons moved rest ih =>
      obtain ⟨d, there, call_eq, fewer⟩ := exists_caller_step h moved
      obtain ⟨e, later, call_eq', fewer'⟩ := ih there
      have split : ([moved] ++ rest).count place = [moved].count place + rest.count place :=
        List.count_append
      rw [List.singleton_append] at split
      exact ⟨e, later, call_eq'.trans call_eq, by omega⟩

/-- What the callers see of the registry that they share, after steps of the callers at the given
places. -/
structure WriteOnce (calls : List Call) (places : List Nat) : Prop where
  /-- A name that is bound stays bound to the same schema. -/
  stays (later : List Nat) :
    (after calls places).registry.Extends (after calls (places ++ later)).registry
  /-- It is bound to a schema of that name, which is the argument of a registration. -/
  bound {name : String} {s : Schema} : (after calls places).registry.get? name = some s →
    s.name = name ∧ .register s ∈ calls
  /-- Each registration that has returned gave the schema that its name is bound to. -/
  kept {s : Schema} {answer : Answer} :
    .returned (.register s) answer ∈ (after calls places).callers →
      ∃ kept, answer = .kept kept ∧ (after calls places).registry.get? s.name = some kept
        ∧ kept.name = s.name ∧ .register kept ∈ calls
  /-- Each look-up gave nothing, or the schema of the name that it is bound to. -/
  found {name : String} {answer : Answer} :
    .returned (.get name) answer ∈ (after calls places).callers →
      ∃ schema?, answer = .found schema? ∧ ∀ s ∈ schema?, s.name = name
        ∧ (after calls places).registry.get? name = some s
  /-- Each list of names was in strictly increasing order the names that were bound when its caller
  took its step. -/
  listed {place : Nat} {answer : Answer} :
    (after calls places).callers[place]? = some (.returned .names answer) →
      ∃ before names, before ++ [place] <+: places ∧ answer = .listed names
        ∧ names.Pairwise (· < ·)
        ∧ ∀ name, name ∈ names ↔ ∃ s, (after calls before).registry.get? name = some s
  /-- Whatever was called, the answer is that of a call which is made all at once, when its caller took
  its last step. -/
  answered {place : Nat} {call : Call} {answer : Answer} :
    (after calls places).callers[place]? = some (.returned call answer) →
      ∃ before, before ++ [place] <+: places
        ∧ answer = call.answer (after calls before).registry
  /-- A caller that has taken two steps has returned. -/
  returns {place : Nat} {call : Call} : calls[place]? = some call → 2 ≤ places.count place →
    ∃ answer, (after calls places).callers[place]? = some (.returned call answer)

end Shared

end Registry

/-- **A registry is written once, however its callers interleave.**  Whatever the calls, and in
whatever order the callers take their steps, a name that is bound stays bound to one schema, which is
named so and was the argument of a registration; each registration of the name that has returned gave
that schema, and each look-up of the name gave it or nothing; each list of names was that of the bound
names, in increasing order; and two steps are enough for a caller to return. -/
theorem registering_interleaved (calls : List Registry.Call) (places : List Nat) :
    Registry.Shared.WriteOnce calls places := by
  have sound := (Registry.Shared.sound_start calls).run places
  exact {
    stays later := Registry.Shared.extends_after calls (List.prefix_append ..)
    bound bound := ⟨Registry.name_of_get? bound, sound.bound bound⟩
    kept member := by
      obtain ⟨kept, rfl, bound⟩ := sound.kept member
      exact ⟨kept, rfl, bound, Registry.name_of_get? bound, sound.bound bound⟩
    found member := by
      obtain ⟨place, here⟩ := List.mem_iff_getElem?.mp member
      obtain ⟨before, is_prefix, rfl⟩ := Registry.Shared.answered here
      have earlier : before <+: places := (List.prefix_append ..).trans is_prefix
      refine ⟨_, rfl, fun s hs => ⟨Registry.name_of_get? hs, ?_⟩⟩
      exact Registry.Shared.extends_after calls earlier _ s hs
    listed here := by
      obtain ⟨before, is_prefix, rfl⟩ := Registry.Shared.answered here
      exact ⟨before, _, is_prefix, rfl, Registry.pairwise_names _, Registry.mem_names_iff _⟩
    answered := Registry.Shared.answered
    returns {place call} called enough := by
      have start : (Registry.Shared.start calls).callers[place]? = some (.calling call) := by
        rw [Registry.Shared.start, List.getElem?_map, called, Option.map_some]
      obtain ⟨c, there, call_eq, left_le⟩ := Registry.Shared.exists_caller_run start places
      have done : c.left = 0 := Nat.le_zero.mp (left_le.trans (Nat.sub_eq_zero_of_le enough).le)
      obtain ⟨answer, returned⟩ := Registry.Caller.exists_eq_returned done
      rw [call_eq, Registry.Caller.call] at returned
      exact ⟨answer, returned ▸ there⟩ }

/-- Both registrations miss the name, and the second is the first to insert. -/
example :
    let early : Schema := .mk 0 "File" []
    let late : Schema := .mk 1 "File" [.mk "link" [.null] false]
    let calls : List Registry.Call := [.register early, .register late, .get "File", .names]
    (Registry.Shared.after calls [0, 1, 1, 2, 0, 3]).callers
      = [.returned (.register early) (.kept late), .returned (.register late) (.kept late),
        .returned (.get "File") (.found (some late)), .returned .names (.listed ["File"])] := by
  cbv

end Dossier
