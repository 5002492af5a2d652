import Dossier.Proofs.Entity.Commuting
import Dossier.Proofs.Entity.Lifetime

/-!
# Entity — typed values read back

A typed value is written as a JSON value and read from one.  A value is *restored* when what is written
of it is read as the value again.

* `Codec.Storable`: of these types every value is restored: texts, truth values, signed and unsigned
  integers of 64 bits, finite numbers, lists of texts, optional texts and JSON values.  An integer is
  written as one, and a number as a number, even where it is integral; where there is no text, null is
  written, which is read as no text.
* `Change.get?_of_apply`: a call leaves every property alone that it does not name.  So commands whose
  calls name other properties keep what a living entity has under one (`Session.get?_run`).
* `typed_read_back`: so a storable value that was set is what is read, then and later, and nothing else
  is read in another way than before.
-/

namespace Dossier

/-! ### Writing and reading one value -/

namespace Codec

variable {α : Type} [Codec α]

/-- What is written of the value is read as the value. -/
def Restores (x : α) : Prop := ∃ v, encode x = .ok v ∧ decode v = some x

theorem int?_ofInt {n : Int} (h : -0x8000000000000000 ≤ n ∧ n < 0x10000000000000000) :
    int? (ofInt n) = some n := by
  rw [ofInt, Number.ofInt?, dif_pos h]
  rfl

theorem restores_int64 (n : Int64) : Restores n := by
  have low := n.le_toInt
  have high := n.toInt_lt
  refine ⟨ofInt n.toInt, rfl, ?_⟩
  simp only [decode]
  rw [int?_ofInt (by omega), Option.bind_some, if_pos (by omega), Int64.ofInt_toInt]

theorem restores_uint64 (n : UInt64) : Restores n := by
  have high := n.toNat_lt
  refine ⟨ofInt n.toNat, rfl, ?_⟩
  simp only [decode]
  rw [int?_ofInt (by omega), Option.bind_some, if_pos (by omega), Int.toNat_natCast,
    UInt64.ofNat_toNat]

/-- A list is restored when its items are. -/
theorem restores_list {xs : List α} (h : ∀ x ∈ xs, Restores x) : Restores xs := by
  have items : ∃ vs, xs.mapM encode = .ok vs ∧ vs.mapM decode = some xs := by
    induction xs with
    | nil => exact ⟨[], rfl, rfl⟩
    | cons x rest ih =>
        obtain ⟨v, written, read⟩ := h x (List.mem_cons_self ..)
        obtain ⟨vs, writtens, reads⟩ := ih fun y hy => h y (List.mem_cons_of_mem _ hy)
        refine ⟨v :: vs, ?_, ?_⟩
        · rw [List.mapM_cons, written, writtens]
          rfl
        · rw [List.mapM_cons, read, reads]
          rfl
  obtain ⟨vs, written, read⟩ := items
  exact ⟨.arr vs, congrArg (Except.map Json.arr) written, read⟩

/-- A value of one of the types whose values are all restored. -/
inductive Storable : {α : Type} → [Codec α] → α → Prop where
  | string (s : String) : Storable s
  | bool (b : Bool) : Storable b
  | int64 (n : Int64) : Storable n
  | uint64 (n : UInt64) : Storable n
  | finite (x : Double) : Storable (Binary64.finite x)
  | strings (texts : List String) : Storable texts
  | string? (text? : Option String) : Storable text?
  | json (v : Json) : Storable v

/-- **A storable value is restored.** -/
theorem Storable.restores {x : α} (h : Storable x) : Restores x := by
  cases h with
  | string s => exact ⟨.str s, rfl, rfl⟩
  | bool b => exact ⟨.bool b, rfl, rfl⟩
  | int64 n => exact restores_int64 n
  | uint64 n => exact restores_uint64 n
  | finite x => exact ⟨.num (.real x), rfl, rfl⟩
  | strings texts => exact restores_list fun s _ => ⟨.str s, rfl, rfl⟩
  | string? text? =>
      cases text? with
      | none => exact ⟨.null, rfl, rfl⟩
      | some s => exact ⟨.str s, rfl, rfl⟩
  | json v => exact ⟨v, rfl, rfl⟩

end Codec

/-! ### One call -/

variable {registry : Registry} {e f : Entity} {property : String}

/-- A call leaves every property alone that it does not name. -/
theorem Change.get?_of_apply {c : Change} (h : c.apply registry e = .ok f) {other : String}
    (ne : c.property ≠ other) : f.get? other = e.get? other := by
  obtain ⟨schema, record, mode⟩ := e
  cases verdict registry schema mode c with
  | fails error fails => simp [fails] at h
  | edits w property_eq declared _ edits =>
      obtain rfl : _ = f := by simpa [edits] using h
      rw [Entity.get?, Edit.find?_on declared, property_eq, if_neg ne, Entity.get?]

namespace Entity

/-- A value that is restored is written as a value that is read as it. -/
theorem get?_of_setAs {α : Type} [Codec α] {x : α} (hx : Codec.Restores x)
    (h : e.setAs registry property x = .ok f) :
    ∃ v, f.get? property = some v ∧ Codec.decode v = some x := by
  obtain ⟨v, written, read⟩ := hx
  simp only [setAs, written] at h
  exact ⟨v, get?_of_set h, read⟩

end Entity

/-! ### Commands on other properties -/

/-- The command makes no call that names the property. -/
def Command.Spares (property : String) (c : Command) : Prop :=
  ∀ call ∈ c.call?, call.property ≠ property

/-- Commands that spare a property keep what the living entities have under it. -/
theorem Session.get?_run {s : Session} {commands : List Command} {value? : Option Json}
    (h : ∀ e ∈ s.entities, e.get? property = value?)
    (spared : ∀ c ∈ commands, c.Spares property) :
    ∀ e ∈ (s.run commands).entities, e.get? property = value? := by
  have all : s.All fun _ e => e.get? property = value? := h
  refine all.run commands (fun c hc call made _ e f applied held => ?_) fun _ _ held => held
  exact (Change.get?_of_apply applied (spared c hc call made)).trans held

/-- **A typed value that was set is read back.**  Let a value be set under a property: a text, a truth
value, an integer of 64 bits, a finite number, a list of texts, an optional text or a JSON value.  If
that succeeds, the value is what is read there as one of its type, from the entity, and after any
commands on other properties from every entity that is then alive; and whatever is read under another
property, as one of any type, is what was read there before. -/
theorem typed_read_back {α : Type} [Codec α] {x : α} (hx : Codec.Storable x)
    (h : e.setAs registry property x = .ok f) :
    f.getAs? α property = some x
    ∧ (∀ commands : List Command, (∀ c ∈ commands, c.Spares property) →
      ∀ g ∈ (Session.run ⟨registry, [f]⟩ commands).entities, g.getAs? α property = some x)
    ∧ ∀ other, property ≠ other → ∀ (β : Type) [Codec β], f.getAs? β other = e.getAs? β other := by
  obtain ⟨v, stored, read⟩ := Entity.get?_of_setAs hx.restores h
  have reads {g : Entity} (hg : g.get? property = some v) : g.getAs? α property = some x := by
    rw [Entity.getAs?, hg]
    exact read
  refine ⟨reads stored, fun commands spared g hg => ?_, fun other ne β _ => ?_⟩
  · have before : ∀ e ∈ [f], e.get? property = some v := List.forall_mem_singleton.mpr stored
    exact reads (Session.get?_run before spared g hg)
  · have kept : f.get? other = e.get? other := Change.get?_of_apply (c := .setAs property x) h ne
    rw [Entity.getAs?, Entity.getAs?, kept]

/-- The child of a tree is set to no text, which its null variant takes.  Then a note is set, a copy is
handed over for a number as its label and is lost, and another schema is registered; and the child is
still no text, where before it was none that could be read as a text, or as none. -/
theorem typed_read_back_tree :
    let registry := (Registry.empty.register Schema.tree).2
    Codec.Storable (none : Option String)
      ∧ Entity.tree.getAs? (Option String) "child" = none
      ∧ (∀ c ∈ Command.onTree, c.Spares "child")
      ∧ ∃ f, Entity.tree.setAs registry "child" (none : Option String) = .ok f
        ∧ f.getAs? (Option String) "child" = some none
        ∧ (∀ g ∈ (Session.run ⟨registry, [f]⟩ Command.onTree).entities,
          g.getAs? (Option String) "child" = some none)
        ∧ f.getAs? String "label" = Entity.tree.getAs? String "label" := by
  intro registry
  have storable : Codec.Storable (none : Option String) := .string? none
  have spared : ∀ c ∈ Command.onTree, c.Spares "child" := by
    simp [Command.onTree, Command.Spares, Command.call?, Change.property]
  obtain ⟨f, set⟩ : ∃ f, Entity.tree.setAs registry "child" (none : Option String) = .ok f :=
    ⟨_, rfl⟩
  obtain ⟨read, later, others⟩ := typed_read_back storable set
  exact ⟨storable, rfl, spared, f, set, read, later _ spared, others "label" (by decide) String⟩

end Dossier
