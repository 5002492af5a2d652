import Mathlib.Data.List.Nodup
import Dossier.Proofs.Fields
import Dossier.Proofs.Schema.Declaration

/-!
# Declaration — what is refused, and what is found by its name

A declaration is looked through once, property by property, and the first fault ends the search.

* `Property.Fault`, `Schema.FaultAt`: what is wrong with a property by itself, and after properties
  with given names.
* `Schema.fault?_eq_some_iff`: what is reported is wrong with the first property that has a fault, and
  a fault of its own comes before a name that it repeats.
* `Schema.index`: the names with their places, filled in one after the other.  A name that came twice
  would stand there with its last place and be searched for from the front, so the two agree because a
  declared schema has no name twice (`Schema.indexes_of_nodup`).
* `declaration_checked`: when a declaration becomes a schema, why it does not otherwise, and what is
  found in the schema.
-/

namespace Dossier

/-! ### Faults -/

theorem Variant.emptyEnumeration?_eq_some_iff {w : Variant} {enumeration : String} :
    w.emptyEnumeration? = some enumeration ↔ w = .enumeration enumeration [] := by
  cases w with
  | enumeration name members => cases members <;> simp [emptyEnumeration?]
  | _ => simp [emptyEnumeration?]

namespace Property

/-- The property has a name and a variant, and no enumeration of it is empty. -/
structure Sound (p : Property) : Prop where
  named : p.name ≠ ""
  shaped : p.variants ≠ []
  membered (enumeration : String) : .enumeration enumeration [] ∉ p.variants

/-- What is wrong with the property by itself, of several things the first. -/
inductive Fault (entity : String) (p : Property) : SchemaError → Prop where
  | unnamed (h : p.name = "") : Fault entity p (.emptyPropertyName entity)
  | shapeless (named : p.name ≠ "") (h : p.variants = []) :
      Fault entity p (.noVariants entity p.name)
  | memberless (named : p.name ≠ "") {before after : List Variant} {enumeration : String}
      (h : p.variants = before ++ .enumeration enumeration [] :: after)
      (first : ∀ other, .enumeration other [] ∉ before) :
      Fault entity p (.emptyEnumeration entity p.name enumeration)

variable {entity : String} {p : Property} {error : SchemaError}

theorem fault?_eq_none_iff_sound : p.fault? entity = none ↔ p.Sound := by
  rw [fault?_eq_none_iff]
  constructor
  · rintro ⟨named, shaped, membered⟩
    exact ⟨named, shaped, membered⟩
  · rintro ⟨named, shaped, membered⟩
    exact ⟨named, shaped, membered⟩

theorem fault?_eq_some_iff : p.fault? entity = some error ↔ p.Fault entity error := by
  constructor
  · intro h
    rw [fault?] at h
    split at h
    · next unnamed => exact Option.some.inj h ▸ .unnamed unnamed
    · next named =>
      split at h
      · next shapeless =>
        exact Option.some.inj h ▸ .shapeless named (List.isEmpty_iff.mp shapeless)
      · obtain ⟨enumeration, found, rfl⟩ := Option.map_eq_some_iff.mp h
        obtain ⟨before, w, after, split, empty, first⟩ := List.findSome?_eq_some_iff.mp found
        obtain rfl := Variant.emptyEnumeration?_eq_some_iff.mp empty
        refine .memberless named split fun other member => ?_
        exact Variant.emptyEnumeration?_eq_none_iff.mp (first _ member) other rfl
  · intro h
    rw [fault?]
    cases h with
    | unnamed h => rw [if_pos h]
    | shapeless named h => rw [if_neg named, if_pos (List.isEmpty_iff.mpr h)]
    | @memberless named before after enumeration h first =>
        have shaped : ¬ p.variants.isEmpty = true := by simp [h]
        have found : p.variants.findSome? Variant.emptyEnumeration? = some enumeration := by
          refine List.findSome?_eq_some_iff.mpr ⟨before, _, after, h, rfl, fun w hw => ?_⟩
          exact Variant.emptyEnumeration?_eq_none_iff.mpr fun other he => first other (he ▸ hw)
        rw [if_neg named, if_neg shaped, found, Option.map_some]

end Property

namespace Schema

/-- The properties are sound, and no two have one name. -/
structure Consistent (properties : List Property) : Prop where
  sound : ∀ p ∈ properties, p.Sound
  nodup : (properties.map Property.name).Nodup

/-- What is wrong with a property that follows properties with the given names. -/
inductive FaultAt (entity : String) (names : List String) (p : Property) : SchemaError → Prop where
  | own {error : SchemaError} (h : p.Fault entity error) : FaultAt entity names p error
  | repeated (sound : p.Sound) (h : p.name ∈ names) :
      FaultAt entity names p (.duplicateProperty entity p.name)

/-- What is wrong with the first of the properties that has a fault. -/
def FirstFault (entity : String) (properties : List Property) (error : SchemaError) : Prop :=
  ∃ before p after, properties = before ++ p :: after ∧ Consistent before
    ∧ FaultAt entity (before.map Property.name) p error

variable {entity : String} {properties : List Property} {error : SchemaError}

theorem fault?_eq_none_iff_consistent :
    fault? entity [] properties = none ↔ Consistent properties := by
  simp only [fault?_eq_none_iff, Property.fault?_eq_none_iff_sound, List.not_mem_nil,
    not_false_eq_true, and_true]
  constructor
  · rintro ⟨sound, nodup⟩
    exact ⟨sound, nodup⟩
  · rintro ⟨sound, nodup⟩
    exact ⟨sound, nodup⟩

theorem fault?_cons (seen : List String) (p : Property) (rest : List Property) :
    fault? entity seen (p :: rest)
      = (fault? entity seen [p]).or (fault? entity (p.name :: seen) rest) := by
  simp only [fault?]
  cases p.fault? entity with
  | some fault => rfl
  | none => by_cases repeated : p.name ∈ seen <;> simp [repeated]

theorem fault?_singleton_eq_some_iff {seen : List String} {p : Property} :
    fault? entity seen [p] = some error ↔ FaultAt entity seen p error := by
  constructor
  · intro h
    simp only [fault?] at h
    split at h
    · next fault own => exact .own (Property.fault?_eq_some_iff.mp (own.trans h))
    · next sound =>
      split at h
      · next repeated =>
        exact Option.some.inj h ▸ .repeated (Property.fault?_eq_none_iff_sound.mp sound) repeated
      · cases h
  · intro h
    rw [fault?]
    cases h with
    | own h => rw [Property.fault?_eq_some_iff.mpr h]
    | repeated sound h =>
        rw [Property.fault?_eq_none_iff_sound.mpr sound]
        exact if_pos h

/-- Among properties that follow ones with the names `seen`, the search stops at the first that has a
fault.  It collects the names before it last first. -/
theorem fault?_eq_some_iff (seen : List String) :
    fault? entity seen properties = some error ↔
      ∃ before p after, properties = before ++ p :: after ∧ fault? entity seen before = none
        ∧ FaultAt entity ((before.map Property.name).reverse ++ seen) p error := by
  induction properties generalizing seen with
  | nil => simp [fault?]
  | cons p rest ih =>
      rw [fault?_cons, Option.or_eq_some_iff, fault?_singleton_eq_some_iff]
      constructor
      · rintro (here | ⟨fine, later⟩)
        · exact ⟨[], p, rest, rfl, rfl, here⟩
        · obtain ⟨before, q, after, rfl, none, fault⟩ := (ih _).mp later
          refine ⟨p :: before, q, after, rfl, ?_, by simpa using fault⟩
          rw [fault?_cons, fine, none, Option.or_none]
      · rintro ⟨before, q, after, split, none, fault⟩
        cases before with
        | nil =>
            cases split
            exact .inl fault
        | cons b before =>
            cases split
            rw [fault?_cons, Option.or_eq_none_iff] at none
            refine .inr ⟨none.1, (ih _).mpr ⟨before, q, after, rfl, none.2, by simpa using fault⟩⟩

/-- What is wrong stays wrong after more properties. -/
theorem FaultAt.of_subset {names others : List String} {p : Property} (h : names ⊆ others)
    (hp : FaultAt entity names p error) : FaultAt entity others p error := by
  cases hp with
  | own fault => exact .own fault
  | repeated sound member => exact .repeated sound (h member)

theorem fault?_eq_some_iff_firstFault :
    fault? entity [] properties = some error ↔ FirstFault entity properties error := by
  -- the order in which the names were collected does not matter
  have names (before : List Property) (p : Property) :
      FaultAt entity ((before.map Property.name).reverse ++ []) p error
        ↔ FaultAt entity (before.map Property.name) p error := by
    constructor <;> exact FaultAt.of_subset (by simp)
  simp only [fault?_eq_some_iff, fault?_eq_none_iff_consistent, names, FirstFault]

/-! ### Looking properties up -/

/-- The names of the properties with their places, of a name the last. -/
def index (s : Schema) : Fields Nat := Fields.ofList s.propertyNames.zipIdx

/-- The schema has the given properties in their order, and finds each by its name. -/
structure Indexes (s : Schema) (properties : List Property) : Prop where
  properties_eq : s.properties = properties
  /-- A name is at the place of the property that has it. -/
  position?_eq_some_iff (key : String) (place : Nat) :
    s.position? key = some place ↔ ∃ p, properties[place]? = some p ∧ p.name = key
  /-- There the property is found. -/
  property?_eq (key : String) : s.property? key = (s.position? key).bind fun place => properties[place]?
  /-- Nothing is found for a name that no property has. -/
  eq_none_iff (key : String) :
    s.position? key = none ∧ s.property? key = none ↔ ∀ p ∈ properties, p.name ≠ key
  /-- The places are those of the index. -/
  find?_index (key : String) : Fields.find? s.index key = s.position? key

variable {s : Schema}

theorem position?_eq_some_iff (h : s.propertyNames.Nodup) {key : String} {place : Nat} :
    s.position? key = some place ↔ ∃ p, s.properties[place]? = some p ∧ p.name = key := by
  rw [position?, List.findIdx?_eq_some_iff_getElem]
  constructor
  · rintro ⟨inside, named, -⟩
    exact ⟨_, List.getElem?_eq_getElem inside, of_decide_eq_true named⟩
  · rintro ⟨p, found, rfl⟩
    obtain ⟨inside, rfl⟩ := List.getElem?_eq_some_iff.mp found
    refine ⟨inside, decide_eq_true rfl, fun earlier before same => ?_⟩
    -- another place of the name would be the same place
    have lt : place < s.propertyNames.length := by simpa [propertyNames] using inside
    have eq : s.propertyNames.get ⟨earlier, Nat.lt_trans before lt⟩
        = s.propertyNames.get ⟨place, lt⟩ := by
      simpa [propertyNames] using same
    exact absurd (h.getElem_inj_iff.mp eq) (Nat.ne_of_lt before)

/-- In a table of distinct names with their places, a name stands with its place. -/
theorem find?_index_eq_some_iff (h : s.propertyNames.Nodup) {key : String} {place : Nat} :
    Fields.find? s.index key = some place ↔ s.propertyNames[place]? = some key := by
  have names : Fields.keys s.propertyNames.zipIdx = s.propertyNames := List.zipIdx_map_fst ..
  have nodup : Fields.Nodup s.propertyNames.zipIdx := by rwa [Fields.Nodup, names]
  have whole : s.index = s.propertyNames.zipIdx :=
    Fields.update_eq_self List.nodup_nil nodup (List.nil_prefix ..)
  rw [whole]
  constructor
  · intro found
    exact List.mem_zipIdx_iff_getElem?.mp (Fields.mem_of_find? found)
  · intro found
    exact Fields.find?_of_mem nodup (List.mem_zipIdx_iff_getElem?.mpr found)

/-- **The index is the inverse of the list.** -/
theorem indexes_of_nodup (h : s.propertyNames.Nodup) : s.Indexes s.properties where
  properties_eq := rfl
  position?_eq_some_iff _ _ := position?_eq_some_iff h
  property?_eq key := List.find?_eq_bind_findIdx?_getElem?
  eq_none_iff key := by simp [position?, property?]
  find?_index key := by
    ext place
    rw [find?_index_eq_some_iff h, position?_eq_some_iff h, propertyNames, List.getElem?_map,
      Option.map_eq_some_iff]

end Schema

/-- **A declaration is accepted exactly when all of it is in order, and is then found by name.**  It
becomes a schema when the entity and all properties have names, no two properties have one name, every
property has a variant and no enumeration is empty.  Otherwise the entity has no name, or the error is
about the first property that is faulty by itself or repeats a name, its own fault coming first.  The
schema has the properties in their order; a name is looked up at the place of the property that has it,
and nowhere when there is none. -/
theorem declaration_checked (serial : Nat) (name : String) (properties : List Property) :
    ((∃ s, Schema.declare serial name properties = .ok s) ↔
      name ≠ "" ∧ Schema.Consistent properties)
    ∧ (∀ error, Schema.declare serial name properties = .error error ↔
      name = "" ∧ error = .emptyEntityName ∨ name ≠ "" ∧ Schema.FirstFault name properties error)
    ∧ ∀ s, Schema.declare serial name properties = .ok s → s.name = name ∧ s.Indexes properties := by
  refine ⟨?_, fun error => ?_, fun s h => ?_⟩
  · simp only [Schema.declare_eq_ok_iff, Schema.fault?_eq_none_iff_consistent, exists_and_left,
      exists_eq, and_true]
  · rw [← Schema.fault?_eq_some_iff_firstFault, Schema.declare]
    by_cases unnamed : name = ""
    · simp [unnamed, eq_comm]
    · cases Schema.fault? name [] properties <;> simp [unnamed]
  · have nodup := Schema.nodup_of_declare h
    obtain ⟨-, -, rfl⟩ := Schema.declare_eq_ok_iff.mp h
    exact ⟨rfl, Schema.indexes_of_nodup nodup⟩

/-- A button is declared and its size is found; with a second label, that is what is wrong, unless the
second label has a fault of its own. -/
theorem declaration_checked_button :
    let label : Property := .mk "label" [.string] false
    let size : Property := .mk "size" [.enumeration "Size" [.str "s", .str "l"], .absent] false
    let button : Schema := .mk 3 "Button" [label, size]
    Schema.declare 3 "Button" [label, size] = .ok button
      ∧ button.Indexes [label, size] ∧ button.position? "size" = some 1
      ∧ Schema.declare 3 "Button" [label, size, label, .mk "" [] false]
        = .error (.duplicateProperty "Button" "label")
      ∧ Schema.declare 3 "Button" [label, size, .mk "label" [] true, label]
        = .error (.noVariants "Button" "label") := by
  intro label size button
  have hs : Schema.declare 3 "Button" [label, size] = .ok button := rfl
  obtain ⟨made, -, indexed⟩ := declaration_checked 3 "Button" [label, size]
  obtain ⟨named, consistent⟩ := made.mp ⟨_, hs⟩
  have found := (indexed button hs).2
  refine ⟨hs, found, (found.position?_eq_some_iff "size" 1).mpr ⟨size, rfl, rfl⟩, ?_, ?_⟩
  · have sound : label.Sound := consistent.sound label (List.mem_cons_self ..)
    refine ((declaration_checked 3 "Button" _).2.1 _).mpr (.inr ⟨named, ?_⟩)
    exact ⟨[label, size], label, _, rfl, consistent, .repeated sound (List.mem_cons_self ..)⟩
  · refine ((declaration_checked 3 "Button" _).2.1 _).mpr (.inr ⟨named, ?_⟩)
    exact ⟨[label, size], _, [label], rfl, consistent, .own (.shapeless (by decide) rfl)⟩

end Dossier
