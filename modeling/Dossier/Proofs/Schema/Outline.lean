import Dossier.Proofs.Schema.Explanation
import Dossier.Proofs.Schema.Fallback

/-!
# Explanation — line by line

An explanation is read off a walk that looks at every variant of every property, also where another
one fits.  What it says of a refused record is given here without the walk, by what the guard says of
the record's parts.

* `Schema.Told`, `Property.Block`, `Variant.Detail`: the lines about a record, about one property of
  it and about a nested entity.  The three go with one another to every depth.
* `Schema.told_report`: the lines of an explanation are these.  The proof is on the size of the value,
  and what has been found out about a property that holds is nothing.
* `explanation_outline`: a line for the undeclared keys and a block for each property that does not
  hold, which names the property and goes on with detail.
-/

namespace Dossier

variable {registry : Registry} {mode : Mode}

/-! ### What there is to say -/

namespace Schema

/-- The line about keys that are not declared, where there are any and the mode minds. -/
def keyLines (mode : Mode) (s : Schema) (fields : Fields Json) : List String :=
  if mode = .development ∧ s.extraKeys fields ≠ [] then
    ["extra properties: " ++ String.intercalate ", " (s.extraKeys fields)]
  else []

/-- The properties that do not hold of a table, in the order of the declaration. -/
def failing (registry : Registry) (mode : Mode) (s : Schema) (fields : Fields Json) :
    List Property :=
  s.properties.filter fun p => ! p.holds registry mode (Fields.find? fields p.name)

end Schema

namespace Property

/-- In a list under an array property, the place of the first item that fits none of the variants. -/
def firstMisfit? (registry : Registry) (mode : Mode) (p : Property) : Option Json → Option Nat
  | some (.arr items) =>
    if p.isArray then items.findIdx? fun v => ! p.present.any fun w => w.fits registry mode v
    else none
  | _ => none

/-- A heading for a value, or an item at a place, that fits none of the variants, and what there is to
say in detail of those that nest an entity, in their order. -/
def misfit (p : Property) (index : Option Nat) (v : Json) (detail : Variant → List String) :
    List String :=
  (p.location index ++ ": expected " ++ Variant.labels p.present ++ ", got " ++ v.kind)
    :: (p.present.filter Variant.nests).flatMap detail

end Property

section Lines

variable (registry : Registry) (mode : Mode)

mutual

/-- The lines about a refused record: one about its keys, and the blocks of the properties that do not
hold of it. -/
inductive Schema.Told : Schema → Fields Json → List String → Prop where
  | mk {s : Schema} {fields : Fields Json} {block : Property → List String}
      (blocks : ∀ p ∈ s.failing registry mode fields,
        Property.Block p (Fields.find? fields p.name) (block p)) :
      Schema.Told s fields (s.keyLines mode fields ++ (s.failing registry mode fields).flatMap block)

/-- The lines about a property that does not hold of what is under its name. -/
inductive Property.Block : Property → Option Json → List String → Prop where
  | missing {p : Property} (required : p.isOptional = false) :
      Property.Block p none [p.location none ++ " is missing; expected " ++ p.expected]
  | noArray {p : Property} {v : Json} (isArray : p.isArray = true) (hv : ∀ items, v ≠ .arr items) :
      Property.Block p (some v) [p.location none ++ ": expected " ++ p.expected ++ ", got " ++ v.kind]
  | value {p : Property} {v : Json} {detail : Variant → List String} (single : p.isArray = false)
      (misfit : ∀ w ∈ p.present, w.fits registry mode v = false)
      (details : ∀ w ∈ p.present, w.nests = true → Variant.Detail w v (detail w)) :
      Property.Block p (some v) (p.misfit none v detail)
  | item {p : Property} {before after : List Json} {v : Json} {detail : Variant → List String}
      (isArray : p.isArray = true)
      (fit : ∀ u ∈ before, ∃ w ∈ p.present, w.fits registry mode u = true)
      (misfit : ∀ w ∈ p.present, w.fits registry mode v = false)
      (details : ∀ w ∈ p.present, w.nests = true → Variant.Detail w v (detail w)) :
      Property.Block p (some (.arr (before ++ v :: after)))
        (p.misfit (some before.length) v detail)

/-- The lines about a value as the nested entity that it is no record of.  What is no record of any
entity is left to the heading. -/
inductive Variant.Detail : Variant → Json → List String → Prop where
  | unknown {name : String} {v : Json} (unknown : registry.get? name = none) :
      Variant.Detail (.reference name) v ["  unknown entity type \"" ++ name ++ "\""]
  | noRecord {w : Variant} {s : Schema} {v : Json} (nested : w.nested? registry = some s)
      (hv : ∀ fields, v ≠ .obj fields) : Variant.Detail w v []
  | record {w : Variant} {s : Schema} {fields : Fields Json} {lines : List String}
      (nested : w.nested? registry = some s)
      (refused : s.accepts registry mode (.obj fields) = false) (told : Schema.Told s fields lines) :
      Variant.Detail w (.obj fields) (("  " ++ s.dtoName ++ ":") :: lines.map ("    " ++ ·))

end

end Lines

/-! ### What is said -/

/-- What has nothing to add may be left out. -/
theorem flatMap_filter_of_nil {α β : Type} {keep : α → Bool} {f : α → List β} {l : List α}
    (h : ∀ x ∈ l, keep x = false → f x = []) : (l.filter keep).flatMap f = l.flatMap f := by
  induction l with
  | nil => rfl
  | cons x rest ih =>
      have ih := ih fun y hy => h y (.tail _ hy)
      cases hx : keep x with
      | true => rw [List.filter_cons_of_pos hx, List.flatMap_cons, List.flatMap_cons, ih]
      | false =>
          rw [List.filter_cons_of_neg (by simp [hx]), List.flatMap_cons, h x (.head _) hx, ih,
            List.nil_append]

namespace Variant

/-- Nothing is said in detail about a variant that nests no entity. -/
theorem lines_of_plain {w : Variant} (h : w.nests = false) (v : Json) :
    (w.report registry mode v).lines = [] := by
  have nested : w.nested? registry = none := by cases w <;> first | rfl | cases h
  rw [report_of_nested?_eq_none nested, reportPlain]
  cases w <;> first | rfl | cases h

/-- What is no table is described as for a variant that nests nothing, and the name is known. -/
theorem lines_of_noRecord {w : Variant} {s : Schema} (h : w.nested? registry = some s) {v : Json}
    (hv : ∀ fields, v ≠ .obj fields) : (w.report registry mode v).lines = [] := by
  have known : w.unknownLines registry = [] := by
    cases w with
    | reference name =>
        have registered : registry.get? name = some s := h
        simp [unknownLines, Registry.contains, registered]
    | _ => rfl
  cases v with
  | obj fields => exact absurd rfl (hv fields)
  | _ => exact known

end Variant

namespace Property

/-- Where no variant fits, all have their say, and those that nest no entity have none. -/
theorem lines_reportElement {p : Property} {v : Json}
    (misfit : ∀ w ∈ p.present, w.fits registry mode v = false) (index : Option Nat) :
    (p.reportElement index v (p.present.map fun w => w.report registry mode v)).lines
      = p.misfit index v fun w => (w.report registry mode v).lines := by
  have refused : (p.present.map fun w => w.report registry mode v).any (·.ok) = false := by
    simpa [Variant.ok_report] using misfit
  rw [reportElement, refused, Property.misfit,
    flatMap_filter_of_nil fun w _ plain => w.lines_of_plain plain v, List.flatMap_map]
  rfl

/-- Of a list that does not fit the first bad item is described. -/
theorem exists_lines_inspectItems {p : Property} {items : List Json}
    (refused : (items.all fun v => p.present.any fun w => w.fits registry mode v) = false) :
    ∃ before v after, items = before ++ v :: after
      ∧ (∀ u ∈ before, ∃ w ∈ p.present, w.fits registry mode u = true)
      ∧ (∀ w ∈ p.present, w.fits registry mode v = false)
      ∧ ∀ index, (Inspection.inspectItems registry mode index items p).lines
        = p.misfit (some (index + before.length)) v fun w => (w.report registry mode v).lines := by
  induction items with
  | nil => cases refused
  | cons v rest ih =>
      cases hv : p.present.any fun w => w.fits registry mode v with
      | false =>
          have misfit : ∀ w ∈ p.present, w.fits registry mode v = false := by simpa using hv
          refine ⟨[], v, rest, rfl, by simp, misfit, fun index => ?_⟩
          simp only [Inspection.inspectItems, hv]
          exact lines_reportElement misfit (some index)
      | true =>
          rw [List.all_cons, hv, Bool.true_and] at refused
          obtain ⟨before, u, after, rfl, fit, misfit, lines⟩ := ih refused
          refine ⟨v :: before, u, after, rfl, ?_, misfit, fun index => ?_⟩
          · exact List.forall_mem_cons.mpr ⟨List.any_eq_true.mp hv, fit⟩
          · simp only [Inspection.inspectItems, hv, if_true]
            rw [lines (index + 1), List.length_cons, Nat.add_right_comm, Nat.add_assoc]

theorem block_missing {p : Property} (refused : p.holds registry mode none = false) :
    p.Block registry mode none (p.report registry mode none).lines := by
  have required : p.isOptional = false := refused
  have heading : "property \"" ++ p.name ++ "\" is missing; expected " ++ p.expected
      = p.location none ++ " is missing; expected " ++ p.expected := by
    simp only [location, String.append_assoc]
    rfl
  rw [report, reportMissing, required, heading]
  exact .missing required

theorem block_noArray {p : Property} {v : Json} (isArray : p.isArray = true)
    (hv : ∀ items, v ≠ .arr items) : p.Block registry mode (some v) (p.reportNoArray v).lines := by
  have heading : "property \"" ++ p.name ++ "\": expected " ++ p.expected ++ ", got " ++ v.kind
      = p.location none ++ ": expected " ++ p.expected ++ ", got " ++ v.kind := by
    simp only [location, String.append_assoc]
    rfl
  rw [reportNoArray, heading]
  exact .noArray isArray hv

/-- A property's lines are its block once the lines about nested entities are detail, on the value and
its items. -/
theorem block_of {p : Property} {v : Json} (refused : p.holds registry mode (some v) = false)
    (h : ∀ u, sizeOf u ≤ sizeOf v → ∀ w : Variant, w.nests = true → w.fits registry mode u = false →
      w.Detail registry mode u (w.report registry mode u).lines) :
    p.Block registry mode (some v) (p.report registry mode (some v)).lines := by
  rw [holds, fits] at refused
  rw [report]
  cases isArray : p.isArray with
  | false =>
      have misfit : ∀ w ∈ p.present, w.fits registry mode v = false := by
        simpa [isArray] using refused
      simp only [Bool.false_eq_true, if_false]
      rw [lines_reportElement misfit none]
      exact .value isArray misfit fun w hw nests => h v (Nat.le_refl _) w nests (misfit w hw)
  | true =>
      simp only [isArray, if_true] at refused ⊢
      cases v with
      | arr items =>
          rw [Guard.arrayFits, Guard.itemsFit_eq] at refused
          obtain ⟨before, u, after, rfl, fit, misfit, lines⟩ := exists_lines_inspectItems refused
          have inner : sizeOf u ≤ sizeOf (Json.arr (before ++ u :: after)) :=
            Nat.le_of_lt (Json.sizeOf_lt_of_mem (by simp))
          rw [Inspection.inspectArray, lines 0, Nat.zero_add]
          exact .item isArray fit misfit fun w hw nests => h u inner w nests (misfit w hw)
      | _ => exact block_noArray isArray (by simp)

end Property

theorem Schema.lines_reportKeys (s : Schema) (fields : Fields Json) :
    (s.reportKeys mode fields).lines = s.keyLines mode fields := by
  rw [reportKeys, keyLines, keysPass]
  cases mode with
  | production => rfl
  | development =>
      cases s.extraKeys fields with
      | nil => rfl
      | cons key rest => rfl

/-- A record's lines are those told of it once each property's are its block. -/
theorem Schema.told_of {s : Schema} {fields : Fields Json}
    (h : ∀ p : Property, p.holds registry mode (Fields.find? fields p.name) = false →
      p.Block registry mode (Fields.find? fields p.name)
        (p.report registry mode (Fields.find? fields p.name)).lines) :
    s.Told registry mode fields (s.reportFields registry mode fields).lines := by
  -- about a property that holds nothing is said
  have blocks : (s.failing registry mode fields).flatMap
        (fun p => (p.report registry mode (Fields.find? fields p.name)).lines)
      = s.properties.flatMap
        fun p => (p.report registry mode (Fields.find? fields p.name)).lines := by
    refine flatMap_filter_of_nil fun p _ holds => ?_
    rw [(p.candid_report _).lines_eq_nil_iff, p.ok_report]
    simpa using holds
  have told : (s.reportFields registry mode fields).lines
      = s.keyLines mode fields ++ (s.failing registry mode fields).flatMap
        fun p => (p.report registry mode (Fields.find? fields p.name)).lines := by
    rw [blocks, ← s.lines_reportKeys, reportFields, Report.all, List.flatMap_cons, List.flatMap_map]
  rw [told]
  refine .mk fun p hp => h p ?_
  simpa using (List.mem_filter.mp hp).2

/-- **What is said of a nested entity** that a value is no record of is the detail of it. -/
theorem Variant.detail_report (v : Json) (w : Variant) :
    w.nests = true → w.fits registry mode v = false →
      w.Detail registry mode v (w.report registry mode v).lines := by
  intro nests refused
  cases hn : w.nested? registry with
  | none =>
      cases w with
      | reference name =>
          have unknown : registry.get? name = none := hn
          rw [report_of_nested?_eq_none hn]
          simp only [reportPlain, unknownLines, Registry.contains, unknown]
          exact .unknown unknown
      | entity s => cases hn
      | _ => cases nests
  | some s =>
      cases v with
      | obj fields =>
          rw [fits_of_nested registry hn] at refused
          have told : s.Told registry mode fields (s.reportFields registry mode fields).lines := by
            -- the entry that a property is checked against is smaller than the record
            refine Schema.told_of fun p hp => ?_
            cases hu : Fields.find? fields p.name with
            | none => exact p.block_missing (hu ▸ hp)
            | some u =>
                have : sizeOf u < sizeOf (Json.obj fields) := Json.sizeOf_lt_of_find? hu
                exact p.block_of (hu ▸ hp) fun x hx w => Variant.detail_report x w
          have failed : (s.reportFields registry mode fields).ok = false :=
            (s.ok_reportFields fields).trans refused
          rw [report_of_nested hn, Report.nest, failed]
          exact .record hn refused told
      | _ =>
          rw [lines_of_noRecord hn (by simp)]
          exact .noRecord hn (by simp)
termination_by sizeOf v
decreasing_by
  subst_vars
  exact Nat.lt_of_le_of_lt hx this

/-- **What is said of a property** that does not hold is its block. -/
theorem Property.block_report {p : Property} {found : Option Json}
    (refused : p.holds registry mode found = false) :
    p.Block registry mode found (p.report registry mode found).lines := by
  cases found with
  | none => exact p.block_missing refused
  | some v => exact p.block_of refused fun u _ w => Variant.detail_report u w

/-- **What is said of a record** is what there is to say. -/
theorem Schema.told_report (s : Schema) (fields : Fields Json) :
    s.Told registry mode fields (s.report registry mode (.obj fields)).lines :=
  told_of fun _ refused => Property.block_report refused

/-! ### What the lines look like -/

theorem Variant.Detail.indented {w : Variant} {v : Json} {lines : List String}
    (h : w.Detail registry mode v lines) : ∀ line ∈ lines, Indented line := by
  cases h with
  | @unknown name v unknown =>
      exact @indented_unknownLines .empty (.reference name)
  | noRecord => simp
  | @record w s fields lines => exact Report.indented_nest s ⟨false, lines⟩

namespace Property

theorem indented_detail {p : Property} {v : Json} {detail : Variant → List String}
    (details : ∀ w ∈ p.present, w.nests = true → w.Detail registry mode v (detail w)) :
    ∀ line ∈ (p.present.filter Variant.nests).flatMap detail, Indented line := by
  intro line hl
  obtain ⟨w, hw, hl⟩ := List.mem_flatMap.mp hl
  obtain ⟨hp, nests⟩ := List.mem_filter.mp hw
  exact (details w hp nests).indented line hl

/-- A heading begins with the name of what it is about, and so is not indented. -/
theorem head?_location (p : Property) (index : Option Nat) (text : String) :
    (p.location index ++ text).toList.head? = some 'p' := by
  cases index <;> simp [location, String.toList_append]

theorem firstMisfit?_item {p : Property} {before after : List Json} {v : Json}
    (isArray : p.isArray = true)
    (fit : ∀ u ∈ before, ∃ w ∈ p.present, w.fits registry mode u = true)
    (misfit : ∀ w ∈ p.present, w.fits registry mode v = false) :
    p.firstMisfit? registry mode (some (.arr (before ++ v :: after))) = some before.length := by
  have fits : (before.findIdx? fun v => ! p.present.any fun w => w.fits registry mode v) = none := by
    simpa using fit
  have first : (! p.present.any fun w => w.fits registry mode v) = true := by simpa using misfit
  rw [firstMisfit?, if_pos isArray, List.findIdx?_append, fits, List.findIdx?_cons, first]
  simp

/-- Of what is no list under an array property there is no such place. -/
theorem firstMisfit?_eq_none {p : Property} {v : Json}
    (h : ∀ items, v = .arr items → p.isArray = false) :
    p.firstMisfit? registry mode (some v) = none := by
  cases v with
  | arr items => rw [firstMisfit?, h items rfl]; rfl
  | _ => rfl

/-- **A block is a heading and detail.**  The heading names the property and, in a list under an array
property, the first item that fits none of the variants. -/
theorem Block.outline {p : Property} {found : Option Json} {lines : List String}
    (h : p.Block registry mode found lines) :
    ∃ text detail, lines = (p.location (p.firstMisfit? registry mode found) ++ text) :: detail
      ∧ ∀ line ∈ detail, Indented line := by
  cases h with
  | missing required =>
      refine ⟨" is missing; expected " ++ p.expected, [], ?_, by simp⟩
      rw [String.append_assoc]
      rfl
  | @noArray _ v isArray hv =>
      refine ⟨": expected " ++ p.expected ++ ", got " ++ v.kind, [], ?_, by simp⟩
      rw [firstMisfit?_eq_none fun items e => absurd e (hv items)]
      simp only [String.append_assoc]
  | @value _ v detail single misfit details =>
      refine ⟨": expected " ++ Variant.labels p.present ++ ", got " ++ v.kind, _, ?_,
        indented_detail details⟩
      rw [firstMisfit?_eq_none fun _ _ => single, Property.misfit]
      simp only [String.append_assoc]
  | @item _ before after v detail isArray fit misfit details =>
      refine ⟨": expected " ++ Variant.labels p.present ++ ", got " ++ v.kind, _, ?_,
        indented_detail details⟩
      rw [firstMisfit?_item isArray fit misfit, Property.misfit]
      simp only [String.append_assoc]

end Property

/-- **The outline of an explanation.**  The explanation of a table that is refused consists of the
lines collected: one about the undeclared keys, in the order of the table, where the mode minds any;
then, in the order of the declaration, a block for each property that does not hold, and none for one
that does.  What a block says of the nested entities is told of them in the same way
(`Property.Block`).  It has a heading, which is not indented and names the property and, in a list
under an array property, the first item that fits none of the variants; the rest is indented. -/
theorem explanation_outline (registry : Registry) (mode : Mode) (s : Schema) (fields : Fields Json)
    (refused : s.accepts registry mode (.obj fields) = false) :
    s.explain registry mode (.obj fields)
        = String.intercalate "\n" (s.report registry mode (.obj fields)).lines
      ∧ ∃ block : Property → List String,
        (s.report registry mode (.obj fields)).lines
            = s.keyLines mode fields ++ (s.failing registry mode fields).flatMap block
          ∧ ∀ p ∈ s.failing registry mode fields,
            p.Block registry mode (Fields.find? fields p.name) (block p)
              ∧ ∃ heading detail, block p = heading :: detail
                ∧ heading.toList.head? ≠ some ' '
                ∧ (∃ text, heading = p.location
                    (p.firstMisfit? registry mode (Fields.find? fields p.name)) ++ text)
                ∧ ∀ line ∈ detail, Indented line := by
  have told : s.Told registry mode fields (s.report registry mode (.obj fields)).lines :=
    s.told_report fields
  have failed : (s.report registry mode (.obj fields)).ok = false := (s.ok_report _).trans refused
  generalize hl : (s.report registry mode (.obj fields)).lines = lines at told ⊢
  refine ⟨by rw [Schema.explain, failed, hl]; rfl, ?_⟩
  cases told with
  | @mk _ _ block blocks =>
      refine ⟨block, rfl, fun p hp => ⟨blocks p hp, ?_⟩⟩
      obtain ⟨text, detail, e, indented⟩ := (blocks p hp).outline
      refine ⟨_, detail, e, ?_, ⟨text, rfl⟩, indented⟩
      rw [Property.head?_location]
      decide

/-- Covers and books on display. -/
def Schema.display : Schema :=
  .mk 5 "Display" [.mk "label" [.entity cover, .json] false,
    .mk "items" [.entity cover, .reference "Book"] true]

/-- The label is no cover, but any value will do.  The first item is a cover, and the second is neither
a cover nor a book. -/
theorem explanation_outline_display :
    let items : Property := .mk "items" [.entity .cover, .reference "Book"] true
    let found : Json := .arr [.obj [("colour", .str "red")], .obj [("colour", .null)]]
    let fields : Fields Json :=
      [("light", .null), ("label", .obj [("colour", .null)]), ("items", found)]
    let lines := ["property \"items\" index 1: expected CoverDTO or BookDTO, got object",
      "  CoverDTO:",
      "    property \"colour\": expected string, got null",
      "  BookDTO:",
      "    extra properties: colour",
      "    property \"kind\" is missing; expected Kind",
      "    property \"notes\" is missing; expected array of string",
      "    property \"cover\" is missing; expected CoverDTO",
      "    property \"author\" is missing; expected AuthorDTO"]
    Schema.display.accepts .library .development (.obj fields) = false
      ∧ (Schema.display.report .library .development (.obj fields)).lines
        = "extra properties: light" :: lines
      ∧ items.Block .library .development (some found) lines := by
  intro items found fields lines
  have refused : Schema.display.accepts .library .development (.obj fields) = false := by decide
  have said : (Schema.display.report .library .development (.obj fields)).lines
      = "extra properties: light" :: lines := by decide
  obtain ⟨-, block, outline, blocks⟩ :=
    explanation_outline .library .development .display fields refused
  have failing : Schema.display.failing .library .development fields = [items] := rfl
  have keys : Schema.display.keyLines .development fields = ["extra properties: light"] := by decide
  rw [said, keys, failing] at outline
  have told : lines = block items := by simpa using outline
  exact ⟨refused, said, told ▸ (blocks items (failing ▸ .head _)).1⟩

end Dossier
