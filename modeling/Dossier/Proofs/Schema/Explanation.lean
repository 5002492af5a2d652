import Dossier.Candidate
import Dossier.Proofs.Schema.Guard

/-!
# Explanation — the collecting walk against the guard

The walk that collects lines goes on where the guard stops: it looks at every variant of a property
and at every property of a record, and describes the first bad item of a list a second time.

* `Variant.ok_report`, `Property.ok_report`, `Schema.ok_report`: its verdict is the guard's all the
  same.  The induction is on the size of the value, since a nested record is a smaller one.
* `Property.describes_report`: about a property the walk says nothing, or fails and says one line
  that names the property, followed by indented ones.
* `Schema.candid_report`: a record is refused with a line at least, and taken without.
* `explanation_agrees`: so an explanation is "OK" exactly for what the guard accepts, for a value,
  for a candidate of a variant and for one of a widened schema.
-/

namespace Dossier

variable {registry : Registry} {mode : Mode}

/-! ### The verdict -/

namespace Report

/-- A finding that passes on a condition has the condition as its verdict. -/
theorem ok_ite (condition : Bool) (lines : List String) :
    (if condition then passed else failed lines).ok = condition := by
  cases condition <;> rfl

@[simp] theorem ok_nest (s : Schema) (r : Report) : (r.nest s).ok = r.ok := ok_ite r.ok _

end Report

namespace Variant

theorem report_of_nested {w : Variant} {s : Schema} (h : w.nested? registry = some s)
    (fields : Fields Json) :
    w.report registry mode (.obj fields) = (s.reportFields registry mode fields).nest s := by
  simp only [report, Inspection.inspect, h, Schema.reportFields, Inspection.inspectIn_eq]

theorem report_of_nested?_eq_none {w : Variant} (h : w.nested? registry = none) (v : Json) :
    w.report registry mode v = w.reportPlain registry v := by
  cases v <;> simp only [report, Inspection.inspect, h]

/-- No value has the shape of a variant that nests an entity, other than by being its record. -/
theorem fitsPlain_of_nested {w : Variant} {s : Schema} (h : w.nested? registry = some s)
    (v : Json) : w.fitsPlain v = false := by
  cases hf : w.fitsPlain v with
  | false => rfl
  | true => rw [nested?_eq_none_of_fitsPlain registry hf] at h; cases h

end Variant

namespace Property

/-- The items of a list pass when each fits a variant; which item is described plays no part. -/
theorem ok_inspectItems (p : Property) (items : List Json) (index : Nat) :
    (Inspection.inspectItems registry mode index items p).ok
      = items.all fun v => p.present.any fun w => w.fits registry mode v := by
  induction items generalizing index with
  | nil => rfl
  | cons v rest ih =>
      cases h : p.present.any fun w => w.fits registry mode v with
      | true => simp only [Inspection.inspectItems, h, if_true, ih, List.all_cons, Bool.true_and]
      | false => simp [Inspection.inspectItems, h]

theorem ok_reportElement (p : Property) (index : Option Nat) (v : Json) (reports : List Report) :
    (p.reportElement index v reports).ok = reports.any (·.ok) :=
  Report.ok_ite _ _

/-- A property's verdict is the guard's once those of its variants on the value are. -/
theorem ok_report_of {p : Property} {v : Json}
    (h : ∀ w : Variant, (w.report registry mode v).ok = w.fits registry mode v) :
    (p.report registry mode (some v)).ok = p.holds registry mode (some v) := by
  cases ha : p.isArray with
  | false => simp [report, holds, fits, ha, ok_reportElement, List.any_map, Function.comp_def, h]
  | true =>
      cases v with
      | arr items =>
          simp [report, holds, fits, ha, Inspection.inspectArray, Guard.arrayFits,
            ok_inspectItems, Guard.itemsFit_eq]
      | _ => simp [report, holds, fits, ha, Inspection.inspectArray, Guard.arrayFits,
          reportNoArray, Report.failed]

theorem ok_reportMissing (p : Property) : p.reportMissing.ok = p.isOptional := Report.ok_ite _ _

end Property

namespace Schema

theorem ok_reportKeys (s : Schema) (fields : Fields Json) :
    (s.reportKeys mode fields).ok = s.keysPass mode fields :=
  Report.ok_ite _ _

/-- A record's verdict is the guard's once those of the properties are. -/
theorem ok_reportFields_of {s : Schema} {fields : Fields Json}
    (h : ∀ p : Property, (p.report registry mode (Fields.find? fields p.name)).ok
      = p.holds registry mode (Fields.find? fields p.name)) :
    (s.reportFields registry mode fields).ok = s.acceptsFields registry mode fields := by
  simp only [reportFields, Report.all, List.all_cons, List.all_map, Function.comp_def,
    ok_reportKeys, h, acceptsFields]

end Schema

/-- **A variant's verdict is the guard's.** -/
theorem Variant.ok_report (v : Json) (w : Variant) :
    (w.report registry mode v).ok = w.fits registry mode v := by
  cases hn : w.nested? registry with
  | none => rw [report_of_nested?_eq_none hn, fits_eq, hn]; rfl
  | some s =>
      rw [fits_of_nested registry hn]
      cases v with
      | obj fields =>
          rw [report_of_nested hn, Report.ok_nest]
          -- the entry that a property is checked against is smaller than the record
          refine Schema.ok_reportFields_of fun p => ?_
          cases hu : Fields.find? fields p.name with
          | none => exact p.ok_reportMissing
          | some u =>
              have : sizeOf u < sizeOf (Json.obj fields) := Json.sizeOf_lt_of_find? hu
              exact Property.ok_report_of fun w => Variant.ok_report u w
      | _ => exact fitsPlain_of_nested hn _
termination_by sizeOf v
decreasing_by simpa only [Json.obj.sizeOf_spec] using this

/-- **A property's verdict is the guard's**, on a value or on there being none. -/
theorem Property.ok_report (p : Property) (v : Option Json) :
    (p.report registry mode v).ok = p.holds registry mode v := by
  cases v with
  | none => exact p.ok_reportMissing
  | some v => exact ok_report_of (Variant.ok_report v)

theorem Schema.ok_reportFields (s : Schema) (fields : Fields Json) :
    (s.reportFields registry mode fields).ok = s.acceptsFields registry mode fields :=
  ok_reportFields_of fun p => p.ok_report _

/-- **A schema's verdict is the guard's.** -/
theorem Schema.ok_report (s : Schema) (v : Json) :
    (s.report registry mode v).ok = s.accepts registry mode v := by
  cases v with
  | obj fields => exact s.ok_reportFields fields
  | _ => rfl

/-- The verdict on a candidate is the widened guard's. -/
theorem Variant.ok_reportCandidate (w : Variant) (c : Candidate) :
    (w.reportCandidate registry mode c).ok = w.accepts registry mode c := by
  cases c with
  | absent => rfl
  | json v => exact ok_report v w
  | entity e => cases w <;> first | rfl | exact ok_report e.dto _

/-! ### The lines -/

/-- A line of detail. -/
def Indented (line : String) : Prop := ∃ text, line = "  " ++ text

theorem Report.indented_nest (s : Schema) (r : Report) :
    ∀ line ∈ (r.nest s).lines, Indented line := by
  intro line h
  rw [nest] at h
  split at h
  · cases h
  · rcases List.mem_cons.mp h with rfl | h
    · exact ⟨s.dtoName ++ ":", by rw [String.append_assoc]⟩
    · obtain ⟨text, -, rfl⟩ := List.mem_map.mp h
      exact ⟨"  " ++ text, by rw [← String.append_assoc]; rfl⟩

namespace Variant

theorem indented_unknownLines (w : Variant) : ∀ line ∈ w.unknownLines registry, Indented line := by
  intro line h
  cases w with
  | reference name =>
      simp only [unknownLines] at h
      split at h
      · cases h
      · obtain rfl := List.mem_singleton.mp h
        refine ⟨"unknown entity type \"" ++ name ++ "\"", ?_⟩
        rw [← String.append_assoc, ← String.append_assoc]
        rfl
  | _ => cases h

/-- What is said about a variant is detail. -/
theorem indented_report (w : Variant) (v : Json) :
    ∀ line ∈ (w.report registry mode v).lines, Indented line := by
  cases hn : w.nested? registry with
  | none =>
      rw [report_of_nested?_eq_none hn]
      exact w.indented_unknownLines
  | some s =>
      cases v with
      | obj fields => rw [report_of_nested hn]; exact Report.indented_nest s _
      -- what is no record is described as for any other variant
      | _ => exact w.indented_unknownLines

end Variant

namespace Property

/-- What a report about a property may say: nothing, or that it fails, in a line that names it and
then in detail. -/
inductive Describes (p : Property) : Report → Prop where
  | passed : Describes p ⟨true, []⟩
  | failed {text : String} {detail : List String} (h : ∀ line ∈ detail, Indented line) :
      Describes p ⟨false, ("property \"" ++ p.name ++ text) :: detail⟩

theorem describes_reportElement {p : Property} {index : Option Nat} {v : Json}
    {reports : List Report} (h : ∀ r ∈ reports, ∀ line ∈ r.lines, Indented line) :
    p.Describes (p.reportElement index v reports) := by
  rw [reportElement]
  split
  · exact .passed
  · have detail : ∀ line ∈ reports.flatMap (·.lines), Indented line := by
      intro line hl
      obtain ⟨r, hr, hl⟩ := List.mem_flatMap.mp hl
      exact h r hr line hl
    cases index <;> simp only [location, String.append_assoc, Report.failed] <;>
      rw [← String.append_assoc] <;> exact .failed detail

theorem describes_inspectItems (p : Property) (items : List Json) (index : Nat) :
    p.Describes (Inspection.inspectItems registry mode index items p) := by
  induction items generalizing index with
  | nil => exact .passed
  | cons v rest ih =>
      rw [Inspection.inspectItems]
      split
      · exact ih (index + 1)
      · next hv =>
        let reports := p.present.map fun w => w.report registry mode v
        have hd : p.Describes (p.reportElement (some index) v reports) := by
          refine describes_reportElement fun r hr => ?_
          obtain ⟨w, -, rfl⟩ := List.mem_map.mp hr
          exact w.indented_report v
        -- no variant takes the item, so describing it again fails as well
        have hok : (p.reportElement (some index) v reports).ok = false := by
          simpa [reports, ok_reportElement, Variant.ok_report] using hv
        show p.Describes ⟨false, (p.reportElement (some index) v reports).lines⟩
        generalize p.reportElement (some index) v reports = r at hd hok
        cases hd with
        | passed => cases hok
        | failed h => exact .failed h

/-- About a property a walk says nothing, or a line that names it and then detail. -/
theorem describes_report (p : Property) (v : Option Json) :
    p.Describes (p.report registry mode v) := by
  cases v with
  | none =>
      simp only [report, reportMissing]
      split
      · exact .passed
      · rw [String.append_assoc]; exact .failed (by simp)
  | some v =>
      simp only [report]
      split
      · cases v with
        | arr items => exact p.describes_inspectItems items 0
        | _ =>
            simp only [Inspection.inspectArray, reportNoArray, Report.failed, String.append_assoc]
            rw [← String.append_assoc]
            exact .failed (by simp)
      · refine describes_reportElement fun r hr => ?_
        obtain ⟨w, -, rfl⟩ := List.mem_map.mp hr
        exact w.indented_report v

end Property

/-! ### The text -/

/-- A line that begins in another way than the text for a value that is as it should be. -/
def Faulty (line : String) : Prop := ∃ c rest, line.toList = c :: rest ∧ c ≠ 'O'

theorem Faulty.append {line : String} (h : Faulty line) (text : String) :
    Faulty (line ++ text) := by
  obtain ⟨c, rest, hl, hc⟩ := h
  exact ⟨c, rest ++ text.toList, by rw [String.toList_append, hl, List.cons_append], hc⟩

theorem Faulty.intercalate_ne {line : String} (h : Faulty line) (lines : List String) :
    String.intercalate "\n" (line :: lines) ≠ "OK" := by
  have hf : Faulty (String.intercalate "\n" (line :: lines)) := by
    cases lines with
    | nil => rw [String.intercalate_singleton]; exact h
    | cons next lines =>
        rw [String.intercalate_cons_cons]
        exact (h.append _).append _
  obtain ⟨c, rest, hl, hc⟩ := hf
  intro e
  rw [e] at hl
  exact hc (List.cons.inj hl).1.symm

theorem faulty_expected : Faulty "expected " := ⟨'e', _, rfl, by decide⟩

theorem faulty_extra : Faulty "extra properties: " := ⟨'e', _, rfl, by decide⟩

theorem faulty_property : Faulty "property \"" := ⟨'p', _, rfl, by decide⟩

/-- A report that has nothing to say when it passes, and opens with a faulty line when it fails. -/
inductive Report.Candid : Report → Prop where
  | passed : Candid ⟨true, []⟩
  | failed {line : String} {lines : List String} (h : Faulty line) : Candid ⟨false, line :: lines⟩

namespace Report

theorem Candid.lines_eq_nil_iff {r : Report} (h : r.Candid) : r.lines = [] ↔ r.ok = true := by
  cases h <;> simp

theorem Candid.all {reports : List Report} (h : ∀ r ∈ reports, r.Candid) :
    (Report.all reports).Candid := by
  induction reports with
  | nil => exact .passed
  | cons r rest ih =>
      have hr := h r (List.mem_cons_self ..)
      have hrest := ih fun q hq => h q (List.mem_cons_of_mem _ hq)
      cases hr with
      | failed hf => exact .failed hf
      | passed => simpa [Report.all] using hrest

/-- The text of a candid report is "OK" exactly when it passes. -/
theorem Candid.text_eq_ok_iff {r : Report} (h : r.Candid) :
    (if r.ok then Schema.explainOk else String.intercalate "\n" r.lines) = "OK" ↔ r.ok = true := by
  cases h with
  | passed => simp [Schema.explainOk]
  | failed hf => simpa using hf.intercalate_ne _

end Report

theorem Property.Describes.candid {p : Property} {r : Report} (h : p.Describes r) : r.Candid := by
  cases h with
  | passed => exact .passed
  | failed _ => exact .failed ((faulty_property.append _).append _)

theorem Property.candid_report (p : Property) (v : Option Json) :
    (p.report registry mode v).Candid :=
  (p.describes_report v).candid

namespace Schema

theorem candid_reportKeys (s : Schema) (fields : Fields Json) :
    (s.reportKeys mode fields).Candid := by
  rw [reportKeys]
  split
  · exact .passed
  · exact .failed (faulty_extra.append _)

/-- A record is refused with a faulty line, and taken without any. -/
theorem candid_report (s : Schema) (v : Json) : (s.report registry mode v).Candid := by
  cases v with
  | obj fields =>
      refine Report.Candid.all fun r hr => ?_
      rcases List.mem_cons.mp hr with rfl | hr
      · exact s.candid_reportKeys fields
      · obtain ⟨p, -, rfl⟩ := List.mem_map.mp hr
        exact p.candid_report _
  | _ => exact .failed ((((faulty_expected.append _).append _).append _))

theorem explain_eq_ok_iff (s : Schema) (v : Json) :
    s.explain registry mode v = "OK" ↔ s.accepts registry mode v = true := by
  rw [← s.ok_report v]
  exact (s.candid_report v).text_eq_ok_iff

theorem explainWidened_eq_ok_iff (s : Schema) (extra : List Variant) (c : Candidate) :
    s.explainWidened registry mode extra c = "OK" ↔
      s.acceptsWidened registry mode extra c = true := by
  simp only [explainWidened, acceptsWidened]
  have line : Faulty ("expected " ++ Variant.labels (s.widened extra) ++ ", got " ++ c.kind) :=
    ((faulty_expected.append _).append _).append _
  cases (s.widened extra).any fun w => w.accepts registry mode c with
  | false => simpa only [Bool.false_eq_true, if_false, iff_false] using line.intercalate_ne _
  | true => simp only [if_true, explainOk]

end Schema

theorem Variant.mismatch?_eq_none_iff (w : Variant) (c : Candidate) :
    w.mismatch? registry mode c = none ↔ w.accepts registry mode c = true := by
  rw [← w.ok_reportCandidate c, mismatch?]
  cases (w.reportCandidate registry mode c).ok <;> simp

/-- **The explanation agrees with the guard.**  A value is explained as "OK", a candidate's mismatch
with a variant has no reason, and a candidate of a widened schema is explained as "OK", exactly when
the guard accepts it.  The collecting walk has the guard's verdict for a variant, a property and a
schema, and adds a line for a property or a schema exactly when it refuses. -/
theorem explanation_agrees (registry : Registry) (mode : Mode) (s : Schema) (v : Json)
    (w : Variant) (c : Candidate) (extra : List Variant) (p : Property) (found : Option Json) :
    (s.explain registry mode v = "OK" ↔ s.accepts registry mode v = true) ∧
      (w.mismatch? registry mode c = none ↔ w.accepts registry mode c = true) ∧
      (s.explainWidened registry mode extra c = "OK" ↔
        s.acceptsWidened registry mode extra c = true) ∧
      (w.reportCandidate registry mode c).ok = w.accepts registry mode c ∧
      (p.report registry mode found).ok = p.holds registry mode found ∧
      (s.report registry mode v).ok = s.accepts registry mode v ∧
      ((p.report registry mode found).lines = [] ↔ p.holds registry mode found = true) ∧
      ((s.report registry mode v).lines = [] ↔ s.accepts registry mode v = true) := by
  refine ⟨s.explain_eq_ok_iff v, w.mismatch?_eq_none_iff c, s.explainWidened_eq_ok_iff extra c,
    w.ok_reportCandidate c, p.ok_report found, s.ok_report v, ?_, ?_⟩
  · rw [← p.ok_report found]
    exact (p.candid_report found).lines_eq_nil_iff
  · rw [← s.ok_report v]
    exact (s.candid_report v).lines_eq_nil_iff

end Dossier
