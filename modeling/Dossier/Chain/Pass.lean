import Dossier.Chain.Error
import Dossier.Chain.Pool
import Dossier.Url.Kind

/-!
# Chain — a pass

A pass is what one call of a resolver keeps track of: the pool members and documents that are
resolved already, and a log of what happened.  The places a chain has come through are a list, the
outermost first; two places count as one when their keys agree.
-/

namespace Dossier

/-- Where a record of a chain comes from. -/
inductive Place (U : Type) where
  | member (name : String) (record : Fields Json)
  | document (url : U)

namespace Place

variable {U : Type} [Urls U]

/-- What tells places apart: a member's name, a document's URL. -/
def key : Place U → String
  | .member name _ => name
  | .document url => Urls.text url

@[simp] theorem key_member (name : String) (record : Fields Json) :
    (member name record : Place U).key = name := rfl

@[simp] theorem key_document (url : U) : (document url).key = Urls.text url := rfl

end Place

/-- What happens in a pass. -/
inductive Event (U : Type) where
  /-- A place is entered, the last of the chain. -/
  | entered (chain : List (Place U))
  /-- A document is asked for. -/
  | requested (url : U) (answer : Except FetchError Json)

structure Pass (U : Type) where
  /-- Resolved pool members by name. -/
  resolved : Fields (Fields Json)
  /-- Resolved documents by the text of their URL. -/
  fetched : Fields (Fields Json)
  /-- What has happened, first first. -/
  log : List (Event U)

namespace Pass

variable {U : Type}

def start : Pass U := ⟨[], [], []⟩

/-- Notes an event. -/
def note (p : Pass U) (e : Event U) : Pass U := { p with log := p.log ++ [e] }

/-- Keeps what the record of a place was resolved to. -/
def remember [Urls U] (p : Pass U) (place : Place U) (record : Fields Json) : Pass U :=
  match place with
  | .member name _ => { p with resolved := Fields.insert p.resolved name record }
  | .document url => { p with fetched := Fields.insert p.fetched (Urls.text url) record }

/-- The documents asked for, in order. -/
def requests (p : Pass U) : List U :=
  p.log.filterMap fun
    | .requested url _ => some url
    | .entered _ => none

/-- The places entered, in order. -/
def visits (p : Pass U) : List (List (Place U)) :=
  p.log.filterMap fun
    | .entered chain => some chain
    | .requested _ _ => none

@[simp] theorem requests_start : (start : Pass U).requests = [] := rfl

@[simp] theorem requests_note_entered (p : Pass U) (chain : List (Place U)) :
    (p.note (.entered chain)).requests = p.requests := by
  simp [requests, note]

@[simp] theorem requests_note_requested (p : Pass U) (url : U) (answer : Except FetchError Json) :
    (p.note (.requested url answer)).requests = p.requests ++ [url] := by
  simp [requests, note]

@[simp] theorem log_remember [Urls U] (p : Pass U) (place : Place U) (record : Fields Json) :
    (p.remember place record).log = p.log := by
  cases place <;> rfl

end Pass

/-- A result together with the pass after it. -/
abbrev Outcome (U α : Type) := Except ResolveError α × Pass U

end Dossier
