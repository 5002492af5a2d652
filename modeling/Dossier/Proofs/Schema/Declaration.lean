import Dossier.Schema.Declaration

/-!
# Declaration — what a declared schema promises

* `Property.fault?_eq_none_iff`: when a property has no fault of its own.
* `Schema.fault?_eq_none_iff`: the loop over the properties finds no fault exactly when no property
  has one of its own and no name occurs twice.
* `Schema.nodup_of_declare`: the properties of a declared schema have different names, so that
  looking a property up by its name gives that property (`Schema.property?_eq_some_iff`).
-/

namespace Dossier

theorem Variant.emptyEnumeration?_eq_none_iff {w : Variant} :
    w.emptyEnumeration? = none ↔ ∀ name, w ≠ .enumeration name [] := by
  cases w with
  | enumeration name members => cases members <;> simp [emptyEnumeration?]
  | _ => simp [emptyEnumeration?]

/-- A property is without fault when it has a name and a variant and no enumeration of it is
empty. -/
theorem Property.fault?_eq_none_iff {entity : String} {p : Property} :
    p.fault? entity = none ↔
      p.name ≠ "" ∧ p.variants ≠ [] ∧ ∀ name, Variant.enumeration name [] ∉ p.variants := by
  have enumerations : p.variants.findSome? Variant.emptyEnumeration? = none ↔
      ∀ name, Variant.enumeration name [] ∉ p.variants := by
    simp only [List.findSome?_eq_none_iff, Variant.emptyEnumeration?_eq_none_iff]
    exact ⟨fun h name hw => h _ hw name rfl, fun h w hw name he => h name (he ▸ hw)⟩
  rw [fault?]
  by_cases hn : p.name = ""
  · simp [hn]
  · cases hv : p.variants <;> simp_all

namespace Schema

/-- Properties that follow ones with the names `seen` are without fault when each is by itself, none
is named like an earlier one, and none is named like one before them. -/
theorem fault?_eq_none_iff (entity : String) (properties : List Property) (seen : List String) :
    fault? entity seen properties = none ↔
      (∀ p ∈ properties, p.fault? entity = none ∧ p.name ∉ seen)
        ∧ (properties.map Property.name).Nodup := by
  induction properties generalizing seen with
  | nil => simp [fault?]
  | cons p rest ih =>
      cases hp : p.fault? entity with
      | some fault => simp [fault?, hp]
      | none =>
          by_cases hs : p.name ∈ seen
          · simp [fault?, hp, hs]
          · simp only [fault?, hp, hs, if_false, ih, List.mem_cons, List.map_cons, List.nodup_cons,
              List.mem_map, not_or, forall_eq_or_imp, not_false_eq_true, and_self, true_and]
            constructor
            · rintro ⟨hr, hn⟩
              exact ⟨fun q hq => ⟨(hr q hq).1, (hr q hq).2.2⟩,
                fun ⟨q, hq, hqp⟩ => (hr q hq).2.1 hqp, hn⟩
            · rintro ⟨hr, hp', hn⟩
              exact ⟨fun q hq => ⟨(hr q hq).1, fun hqp => hp' ⟨q, hq, hqp⟩, (hr q hq).2⟩, hn⟩

variable {serial : Nat} {name : String} {properties : List Property} {s : Schema}

theorem declare_eq_ok_iff :
    declare serial name properties = .ok s ↔
      name ≠ "" ∧ fault? name [] properties = none ∧ s = .mk serial name properties := by
  rw [declare]
  by_cases hn : name = ""
  · simp [hn]
  · cases hf : fault? name [] properties with
    | none => simp [hn, eq_comm]
    | some fault => simp [hn]

/-- The properties of a declared schema have different names. -/
theorem nodup_of_declare (h : declare serial name properties = .ok s) : s.propertyNames.Nodup := by
  obtain ⟨-, hf, rfl⟩ := declare_eq_ok_iff.mp h
  exact ((fault?_eq_none_iff name properties []).mp hf).2

theorem mem_propertyNames {name : String} :
    name ∈ s.propertyNames ↔ ∃ p ∈ s.properties, p.name = name := by
  simp [propertyNames]

/-- The schema declares the names of its properties. -/
theorem declares_iff {name : String} : s.declares name = true ↔ name ∈ s.propertyNames := by
  simp [declares, property?, propertyNames]

theorem mem_propertyNames_of_property? {name : String} {p : Property}
    (h : s.property? name = some p) : name ∈ s.propertyNames :=
  declares_iff.mp (Option.isSome_iff_exists.mpr ⟨p, h⟩)

/-- Among properties with different names, the first of a name is the only one. -/
theorem find?_name_of_mem {properties : List Property} (h : (properties.map Property.name).Nodup)
    {p : Property} (hp : p ∈ properties) :
    (properties.find? fun q => q.name = p.name) = some p := by
  induction properties with
  | nil => cases hp
  | cons q rest ih =>
      obtain ⟨hq, hr⟩ := List.nodup_cons.mp h
      rcases List.mem_cons.mp hp with rfl | hp
      · simp
      · have hne : q.name ≠ p.name := fun e => hq (e ▸ List.mem_map_of_mem hp)
        rw [List.find?_cons_of_neg (by simpa using hne)]
        exact ih hr hp

/-- Where names are different, the look-up by a name finds the property of that name. -/
theorem property?_eq_some_iff (h : s.propertyNames.Nodup) {name : String} {p : Property} :
    s.property? name = some p ↔ p ∈ s.properties ∧ p.name = name := by
  constructor
  · intro hp
    exact ⟨List.mem_of_find?_eq_some hp, by simpa using List.find?_some hp⟩
  · rintro ⟨hp, rfl⟩
    exact find?_name_of_mem h hp

end Schema

end Dossier
