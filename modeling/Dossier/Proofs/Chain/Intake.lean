import Dossier.Proofs.Chain.Run
import Dossier.Proofs.Schema.Explanation

/-!
# Chain — the intake of documents

A document that is asked for goes through an intake: the guard of the schema is asked first, and only
then whether the document is an object.

* `Remote.intake_ne_shapeless`: what passes the guard is an object.
* `Remote.received_ok`, `Remote.refused_of_received`: what is received of a document is what its
  intake leaves, and where it is refused its explanation finds a fault.
* `Remote.Cleared.split`, `Remote.Stopped.split`: as long as documents are accepted, each answer is
  the fetcher's, and an object of the schema; the last one may be the reason to stop.
-/

namespace Dossier

variable {U : Type}

/-! ### Intake -/

namespace Remote

variable {remote : Remote U} {mode : Mode} {payload : Json} {record : Fields Json}

/-- The payload is a record of the schema. -/
def Accepts (remote : Remote U) (mode : Mode) (payload : Json) : Prop :=
  remote.schema.accepts remote.registry mode payload = true

/-- What becomes of a payload. -/
inductive Intake where
  | taken (record : Fields Json)
  | refused
  /-- The payload has passed the guard and is no object. -/
  | shapeless

/-- The guard is asked first, and then whether the payload is an object. -/
def intake (remote : Remote U) (mode : Mode) (payload : Json) : Intake :=
  if remote.schema.accepts remote.registry mode payload then
    match payload with
    | .obj record => .taken record
    | _ => .shapeless
  else .refused

/-- What is received of a document: a record that was taken, and else an error. -/
def Intake.received (refusal : ResolveError) : Intake → Except ResolveError (Fields Json)
  | .taken record => .ok record
  | .refused | .shapeless => .error refusal

theorem intake_of_accepts (h : remote.Accepts mode (.obj record)) :
    remote.intake mode (.obj record) = .taken record :=
  if_pos h

theorem intake_of_not_accepts (h : ¬ remote.Accepts mode payload) :
    remote.intake mode payload = .refused :=
  if_neg h

/-- **What passes the guard is an object.** -/
theorem intake_ne_shapeless (remote : Remote U) (mode : Mode) (payload : Json) :
    remote.intake mode payload ≠ .shapeless := by
  by_cases h : remote.Accepts mode payload
  · obtain ⟨record, rfl⟩ := Schema.exists_obj_of_accepts h
    rw [intake_of_accepts h]
    nofun
  · rw [intake_of_not_accepts h]
    nofun

/-- What is received of a payload is what its intake leaves. -/
theorem received_ok (remote : Remote U) (mode : Mode) (reference requester : String)
    (payload : Json) : Resolver.received remote mode reference requester (.ok payload)
      = (remote.intake mode payload).received (.invalidRemote reference requester
          remote.schema.dtoName (remote.schema.explain remote.registry mode payload)) := by
  cases payload with
  | obj record =>
      by_cases h : remote.Accepts mode (.obj record)
      · rw [intake_of_accepts h]
        exact if_pos h
      · rw [intake_of_not_accepts h]
        exact if_neg h
  | _ => rfl

/-- A payload is refused only when it is not accepted, and its explanation then finds a fault. -/
theorem refused_of_received {reference requester : String} {e : ResolveError}
    (fails : Resolver.received remote mode reference requester (.ok payload) = .error e) :
    ¬ remote.Accepts mode payload
      ∧ e = .invalidRemote reference requester remote.schema.dtoName
        (remote.schema.explain remote.registry mode payload)
      ∧ remote.schema.explain remote.registry mode payload ≠ "OK" := by
  rw [received_ok] at fails
  have refused : ¬ remote.Accepts mode payload := fun accepted => by
    obtain ⟨record, rfl⟩ := Schema.exists_obj_of_accepts accepted
    rw [intake_of_accepts accepted] at fails
    cases fails
  rw [intake_of_not_accepts refused] at fails
  cases fails
  exact ⟨refused, rfl, fun fine => refused ((Schema.explain_eq_ok_iff ..).mp fine)⟩

end Remote

/-! ### Answers -/

namespace Pass

/-- The documents asked for, in order, and what they were answered with. -/
def answers (p : Pass U) : List (U × Except FetchError Json) :=
  p.log.filterMap fun
    | .requested url answer => some (url, answer)
    | .entered _ => none

variable (p : Pass U)

@[simp] theorem answers_note_entered (chain : List (Place U)) :
    (p.note (.entered chain)).answers = p.answers := by
  simp [answers, note]

@[simp] theorem answers_note_requested (url : U) (answer : Except FetchError Json) :
    (p.note (.requested url answer)).answers = p.answers ++ [(url, answer)] := by
  simp [answers, note]

@[simp] theorem answers_remember [Urls U] (place : Place U) (record : Fields Json) :
    (p.remember place record).answers = p.answers := by
  rw [answers, answers, log_remember]

theorem map_fst_answers : p.answers.map Prod.fst = p.requests := by
  rw [answers, requests, List.map_filterMap]
  exact congrArg (List.filterMap · p.log) (funext fun e => by cases e <;> rfl)

end Pass

/-- A row that ends with `x` has a `y` inside, or `y` is its end. -/
theorem split_concat {α : Type} {xs front back : List α} {x y : α}
    (h : xs ++ [x] = front ++ y :: back) :
    (back = [] ∧ front = xs ∧ y = x) ∨ ∃ inner, xs = front ++ y :: inner := by
  rcases List.eq_nil_or_concat back with rfl | ⟨inner, z, rfl⟩
  · obtain ⟨rfl, he⟩ := List.append_inj' h rfl
    cases he
    exact .inl ⟨rfl, rfl, rfl⟩
  · have h : xs ++ [x] = (front ++ y :: inner) ++ [z] := by simpa using h
    exact .inr ⟨inner, (List.append_inj' h rfl).1⟩

namespace Remote

variable {remote : Remote U} {mode : Mode} {answers front back : List (U × Except FetchError Json)}
  {url : U} {answer : Except FetchError Json} {e : ResolveError}

/-- Documents were asked for one after the other, and each of them was accepted. -/
inductive Cleared (remote : Remote U) (mode : Mode) : List (U × Except FetchError Json) → Prop where
  | nil : Cleared remote mode []
  | ask {answers : List (U × Except FetchError Json)} {url : U} {record : Fields Json}
      (before : Cleared remote mode answers)
      (answered : remote.fetch (answers.map Prod.fst) url = .ok (.obj record))
      (accepted : remote.Accepts mode (.obj record)) :
      Cleared remote mode (answers ++ [(url, .ok (.obj record))])

/-- All were accepted except the last one, for which the error is the reason. -/
inductive Stopped (remote : Remote U) (mode : Mode) (e : ResolveError) :
    List (U × Except FetchError Json) → Prop where
  | last {answers : List (U × Except FetchError Json)} {url : U} {reference requester : String}
      (before : Cleared remote mode answers)
      (fails : Resolver.received remote mode reference requester
        (remote.fetch (answers.map Prod.fst) url) = .error e) :
      Stopped remote mode e (answers ++ [(url, remote.fetch (answers.map Prod.fst) url)])

/-- An answer is the fetcher's, and an accepted object. -/
theorem Cleared.split (h : Cleared remote mode answers)
    (split : answers = front ++ (url, answer) :: back) :
    answer = remote.fetch (front.map Prod.fst) url
      ∧ ∃ record, answer = .ok (.obj record) ∧ remote.Accepts mode (.obj record) := by
  induction h generalizing back with
  | nil => simp at split
  | ask before answered accepted ih =>
      rcases split_concat split with ⟨-, rfl, he⟩ | ⟨inner, split⟩
      · cases he
        exact ⟨answered.symm, _, rfl, accepted⟩
      · exact ih split

theorem Cleared.accepts (h : Cleared remote mode answers) {record : Fields Json}
    (hm : (url, .ok (.obj record)) ∈ answers) : remote.Accepts mode (.obj record) := by
  obtain ⟨front, back, split⟩ := List.append_of_mem hm
  obtain ⟨-, inner, he, accepted⟩ := h.split split
  cases he
  exact accepted

/-- An answer is the fetcher's, and an accepted object unless it is the last one. -/
theorem Stopped.split (h : Stopped remote mode e answers)
    (split : answers = front ++ (url, answer) :: back) :
    answer = remote.fetch (front.map Prod.fst) url
      ∧ ((∃ record, answer = .ok (.obj record) ∧ remote.Accepts mode (.obj record))
        ∨ back = [] ∧ ∃ reference requester,
          Resolver.received remote mode reference requester answer = .error e) := by
  cases h with
  | last before fails =>
      rcases split_concat split with ⟨rfl, rfl, he⟩ | ⟨inner, split⟩
      · cases he
        exact ⟨rfl, .inr ⟨rfl, _, _, fails⟩⟩
      · obtain ⟨served, accepted⟩ := before.split split
        exact ⟨served, .inl accepted⟩

end Remote

/-! ### Records that are reached -/

/-- The record that is reached by an event: a member's as it is entered, a document's as it is
accepted. -/
def Remote.reached? (remote : Remote U) (mode : Mode) : Event U → Option (Fields Json)
  | .entered chain =>
    match chain.getLast? with
    | some (.member _ record) => some record
    | _ => none
  | .requested _ (.ok payload) =>
    match remote.intake mode payload with
    | .taken record => some record
    | _ => none
  | .requested _ (.error _) => none

/-- The records that are reached in a pass, in order. -/
def Pass.reached (remote : Remote U) (mode : Mode) (p : Pass U) : List (Fields Json) :=
  p.log.filterMap (remote.reached? mode)

theorem Pass.reached_note (remote : Remote U) (mode : Mode) (p : Pass U) (e : Event U) :
    (p.note e).reached remote mode = p.reached remote mode ++ (remote.reached? mode e).toList := by
  rw [reached, note, List.filterMap_append, reached]
  cases h : remote.reached? mode e <;> simp [h]

end Dossier
