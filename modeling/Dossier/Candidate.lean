import Dossier.Entity.Basic
import Dossier.Schema.Explanation

/-!
# Candidate — what is offered to a variant

A variant is matched against a value, against nothing, or against a live entity, whose record is
then checked in its place: only a nested entity and the variant `json` take a live entity.

A widened guard takes the records of a schema or any of some further variants.
-/

namespace Dossier

/-- A missing property, a value, or a live entity. -/
inductive Candidate where
  | absent
  | json (value : Json)
  | entity (entity : Entity)

/-- The candidate's kind in explanations. -/
def Candidate.kind : Candidate → String
  | .absent => "absent"
  | .json v => v.kind
  | .entity e => e.schema.name ++ " entity"

namespace Variant

/-- Does the candidate have the shape of the variant? -/
def accepts (registry : Registry) (mode : Mode) (w : Variant) : Candidate → Bool
  | .absent => w.isAbsent
  | .json v => w.fits registry mode v
  | .entity e =>
    match w with
    | .json => true
    | .entity _ | .reference _ => w.fits registry mode e.dto
    | _ => false

/-- The finding about a candidate. -/
def reportCandidate (registry : Registry) (mode : Mode) (w : Variant) : Candidate → Report
  | .absent => ⟨w.isAbsent, w.unknownLines registry⟩
  | .json v => w.report registry mode v
  | .entity e =>
    match w with
    | .json => .passed
    | .entity _ | .reference _ => w.report registry mode e.dto
    | _ => .failed []

/-- Why the candidate does not have the shape of the variant, if it does not. -/
def mismatch? (registry : Registry) (mode : Mode) (w : Variant) (c : Candidate) : Option String :=
  let r := w.reportCandidate registry mode c
  if r.ok then none
  else some (String.intercalate "\n" (("expected " ++ w.label ++ ", got " ++ c.kind) :: r.lines))

end Variant

namespace Schema

/-- The schema's own records as a variant, followed by the further ones. -/
def widened (s : Schema) (extra : List Variant) : List Variant := .entity s :: extra

/-- Is the candidate a record of the schema, or does it have the shape of a further variant? -/
def acceptsWidened (registry : Registry) (mode : Mode) (s : Schema) (extra : List Variant)
    (c : Candidate) : Bool :=
  (s.widened extra).any fun w => w.accepts registry mode c

/-- Why the candidate is neither a record of the schema nor has the shape of a further variant, or
`explainOk`. -/
def explainWidened (registry : Registry) (mode : Mode) (s : Schema) (extra : List Variant)
    (c : Candidate) : String :=
  let variants := s.widened extra
  if variants.any fun w => w.accepts registry mode c then explainOk
  else String.intercalate "\n"
    (("expected " ++ Variant.labels variants ++ ", got " ++ c.kind)
      :: variants.flatMap fun w => (w.reportCandidate registry mode c).lines)

end Schema

end Dossier
