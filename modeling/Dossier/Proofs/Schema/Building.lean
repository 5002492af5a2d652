import Dossier.Proofs.Schema.Default
import Dossier.Proofs.Schema.Guard

/-!
# Default — records inside records

The zero of a nested entity is a default record of its own, and it is built while the entities
around it still are.  Their names are carried along, and a reference back to one of them gives
nothing.

* `Default.referred_eq`: the number of registered schemas bounds how many references are followed, and
  that bound is never met.  What a reference gives depends on the names being built only: nothing
  while its own is one of them or is not registered, and else the default record of its schema.
* `Default.source?`: the variant that a property's zero comes from, which is the first to have one.
* `Default.Enters`: one record is built inside another, as the zero of a property.
* `Default.Enters.induction`: records do not go on inside one another for ever.  A nested schema is a
  smaller one, and a reference that is followed takes a registered name into those being built.
-/

namespace Dossier

/-- A value that the property has in a default record is the zero of a variant: no record may leave
the property out, and it is no array. -/
structure Property.TakesZero (p : Property) : Prop where
  required : p.isOptional = false
  single : p.isArray = false

namespace Default

/-! ### What references give -/

section Congruence

variable {entered other : List String → String → Option (Fields Json)}

mutual

theorem ofVariant_congr {building : List String}
    (h : ∀ inner, building ⊆ inner → entered inner = other inner) :
    ∀ w : Variant, ofVariant entered building w = ofVariant other building w
  | .entity schema => by
      rw [ofVariant, ofVariant, ofSchema_congr schema fun inner hi => h inner ?_]
      exact fun name hn => hi (.tail _ hn)
  | .reference name => by rw [ofVariant, ofVariant, h building (List.Subset.refl _)]
  | .string | .number | .integer | .boolean | .json | .null | .absent | .enumeration _ _ => rfl

theorem ofVariants_congr {building : List String}
    (h : ∀ inner, building ⊆ inner → entered inner = other inner) :
    ∀ variants : List Variant,
      ofVariants entered building variants = ofVariants other building variants
  | [] => rfl
  | w :: rest => by simp only [ofVariants, ofVariant_congr h w, ofVariants_congr h rest]

theorem ofProperty_congr {building : List String}
    (h : ∀ inner, building ⊆ inner → entered inner = other inner) :
    ∀ p : Property, ofProperty entered building p = ofProperty other building p
  | .mk _ variants _ => by simp only [ofProperty, ofVariants_congr h variants]

theorem ofProperties_congr {building : List String}
    (h : ∀ inner, building ⊆ inner → entered inner = other inner) :
    ∀ properties : List Property,
      ofProperties entered building properties = ofProperties other building properties
  | [] => rfl
  | p :: rest => by simp only [ofProperties, ofProperty_congr h p, ofProperties_congr h rest]

/-- A schema's default record depends on what references give while the schema is being built. -/
theorem ofSchema_congr {building : List String} :
    ∀ s : Schema, (∀ inner, s.name :: building ⊆ inner → entered inner = other inner) →
      ofSchema entered building s = ofSchema other building s
  | .mk _ name properties, h => by
      rw [ofSchema, ofSchema]
      exact ofProperties_congr h properties

end

end Congruence

variable (registry : Registry)

/-- The default record that a reference gives inside entities of the names `building`. -/
def referred : List String → String → Option (Fields Json) := ofReference registry registry.size

/-- How many registered names are not being built. -/
def unentered (building : List String) : Nat :=
  ((Fields.keys registry.entries).filter (· ∉ building)).length

theorem unentered_le_size (building : List String) : unentered registry building ≤ registry.size := by
  have := List.length_filter_le (· ∉ building) (Fields.keys registry.entries)
  rwa [Fields.keys, List.length_map] at this

variable {registry}

/-- More names being built leave fewer to enter. -/
theorem unentered_mono {building inner : List String} (h : building ⊆ inner) :
    unentered registry inner ≤ unentered registry building := by
  rw [unentered, unentered, ← List.countP_eq_length_filter, ← List.countP_eq_length_filter]
  refine List.countP_mono_left fun name _ hn => ?_
  simp only [decide_eq_true_eq] at hn ⊢
  exact fun hb => hn (h hb)

/-- A registered name that is taken into those being built leaves one less to enter. -/
theorem unentered_lt {building inner : List String} {name : String}
    (hr : name ∈ Fields.keys registry.entries) (hn : name ∉ building)
    (h : name :: building ⊆ inner) : unentered registry inner < unentered registry building := by
  have both : (Fields.keys registry.entries).filter (· ∉ inner)
      = ((Fields.keys registry.entries).filter (· ∉ building)).filter (· ∉ inner) := by
    rw [List.filter_filter]
    refine List.filter_congr fun other _ => ?_
    by_cases hb : other ∈ building
    · simp [hb, h (List.mem_cons_of_mem name hb)]
    · simp [hb]
  rw [unentered, both]
  refine List.length_filter_lt_length_iff_exists.mpr ⟨name, List.mem_filter.mpr ⟨hr, ?_⟩, ?_⟩
  · simpa using hn
  · simpa using h (List.mem_cons_self ..)

theorem mem_names_of_get? {name : String} {s : Schema} (h : registry.get? name = some s) :
    name ∈ Fields.keys registry.entries :=
  List.mem_map.mpr ⟨(name, s), Fields.mem_of_find? h, rfl⟩

/-- Where no more names are left than references may be followed, one more changes nothing. -/
theorem ofReference_succ {depth : Nat} {building : List String}
    (h : unentered registry building ≤ depth) :
    ofReference registry (depth + 1) building = ofReference registry depth building := by
  induction depth generalizing building with
  | zero =>
      funext name
      simp only [ofReference, ite_eq_left_iff, Option.map_eq_none_iff]
      intro hn
      cases hs : registry.get? name with
      | none => rfl
      | some s =>
          -- every registered name is being built
          have := unentered_lt (mem_names_of_get? hs) hn (List.Subset.refl _)
          omega
  | succ depth ih =>
      funext name
      rw [ofReference, ofReference]
      split
      · rfl
      next hn =>
        cases hs : registry.get? name with
        | none => rfl
        | some s =>
            refine congrArg some (ofSchema_congr s fun inner hi => ih ?_)
            rw [Registry.name_of_get? hs] at hi
            have := unentered_lt (mem_names_of_get? hs) hn hi
            omega

/-- **The bound is never met.**  A reference gives nothing while an entity of its name is being built
or when the name is not registered, and else the default record of the schema. -/
theorem referred_eq (building : List String) (name : String) :
    referred registry building name
      = if name ∈ building then none
        else (registry.get? name).map (ofSchema (referred registry) building) := by
  have once_more : ofReference registry (registry.size + 1) building = referred registry building :=
    ofReference_succ (unentered_le_size registry building)
  rw [← once_more]
  rfl

theorem referred_eq_some_iff {building : List String} {name : String} {fields : Fields Json} :
    referred registry building name = some fields ↔
      name ∉ building ∧ ∃ s, registry.get? name = some s
        ∧ ofSchema (referred registry) building s = fields := by
  rw [referred_eq]
  split <;> simp_all

/-! ### Where a zero comes from -/

theorem ofVariants_eq (entered : List String → String → Option (Fields Json))
    (building : List String) (variants : List Variant) :
    ofVariants entered building variants
      = (variants.filter fun w => ! w.isAbsent).findSome? (ofVariant entered building) := by
  induction variants with
  | nil => rfl
  | cons w rest ih =>
      cases ha : w.isAbsent with
      | true => simp [ofVariants, ha, ih]
      | false =>
          simp only [ofVariants, ha, ih, List.filter_cons, Bool.not_false, if_true,
            List.findSome?_cons]
          cases ofVariant entered building w <;> rfl

variable (registry) in
/-- The variant that a property's zero comes from: the first that has one. -/
def source? (building : List String) (p : Property) : Option Variant :=
  p.present.find? fun w => (ofVariant (referred registry) building w).isSome

variable {building : List String} {p : Property} {w : Variant}

theorem mem_present_of_source? (h : source? registry building p = some w) : w ∈ p.present :=
  List.mem_of_find?_eq_some h

theorem mem_variants_of_source? (h : source? registry building p = some w) : w ∈ p.variants :=
  (List.mem_filter.mp (mem_present_of_source? h)).1

theorem exists_zero_of_source? (h : source? registry building p = some w) :
    ∃ v, ofVariant (referred registry) building w = some v := by
  have := List.find?_some h
  exact Option.isSome_iff_exists.mp this

section Values

variable {entered : List String → String → Option (Fields Json)}

theorem ofProperty_of_optional (optional : p.isOptional = true) :
    ofProperty entered building p = none := by
  obtain ⟨name, variants, isArray⟩ := p
  exact if_pos optional

theorem ofProperty_of_isArray (required : p.isOptional = false) (isArray : p.isArray = true) :
    ofProperty entered building p = some (.arr []) := by
  obtain ⟨name, variants, array⟩ := p
  have present : variants.any Variant.isAbsent = false := required
  obtain rfl : array = true := isArray
  simp [ofProperty, present]

theorem ofProperty_of_takesZero (takes : p.TakesZero) :
    ofProperty entered building p
      = some ((p.present.findSome? (ofVariant entered building)).getD (.obj [])) := by
  obtain ⟨name, variants, isArray⟩ := p
  have required : variants.any Variant.isAbsent = false := takes.required
  obtain rfl : isArray = false := takes.single
  simp [ofProperty, required, ofVariants_eq, Property.present, Property.variants]

end Values

/-- A property's value in a default record is the zero of its source. -/
theorem ofProperty_of_source? (hp : p.TakesZero) (h : source? registry building p = some w) :
    ofProperty (referred registry) building p = ofVariant (referred registry) building w := by
  obtain ⟨v, hv⟩ := exists_zero_of_source? h
  obtain ⟨-, before, after, hl, hb⟩ := List.find?_eq_some_iff_append.mp h
  -- the variants before the source have no zero
  have first : p.present.findSome? (ofVariant (referred registry) building) = some v :=
    List.findSome?_eq_some_iff.mpr ⟨before, w, after, hl, hv, fun u hu => by simpa using hb u hu⟩
  rw [ofProperty_of_takesZero hp, first, hv]
  rfl

/-- What the source nests has its record built as the zero. -/
theorem ofVariant_of_nested {t : Schema} {v : Json} (hn : w.nested? registry = some t)
    (hv : ofVariant (referred registry) building w = some v) :
    v = .obj (ofSchema (referred registry) building t) := by
  cases w with
  | entity s =>
      obtain rfl : s = t := Option.some.inj hn
      exact (Option.some.inj hv).symm
  | reference name =>
      obtain ⟨fields, hf, rfl⟩ := Option.map_eq_some_iff.mp hv
      obtain ⟨-, s, hs, rfl⟩ := referred_eq_some_iff.mp hf
      obtain rfl : s = t := Option.some.inj (hs.symm.trans hn)
      rfl
  | _ => cases hn

/-- Where names are different, what stands under a property's name is that property's value. -/
theorem find?_ofProperties (entered : List String → String → Option (Fields Json))
    {properties : List Property} (h : (properties.map Property.name).Nodup) (hp : p ∈ properties) :
    Fields.find? (ofProperties entered building properties) p.name
      = ofProperty entered building p := by
  induction properties with
  | nil => cases hp
  | cons q rest ih =>
      obtain ⟨hq, hr⟩ := List.nodup_cons.mp h
      rcases List.mem_cons.mp hp with rfl | hp
      · have absent : Fields.find? (ofProperties entered building rest) p.name = none := by
          rw [Fields.find?_eq_none_iff, keys_ofProperties]
          exact fun hm => hq ((List.filter_sublist.map Property.name).subset hm)
        cases hv : ofProperty entered building p <;> simp [ofProperties, hv, absent, Fields.find?]
      · have hne : q.name ≠ p.name := fun e => hq (e ▸ List.mem_map_of_mem hp)
        cases hv : ofProperty entered building q <;>
          simp [ofProperties, hv, ih hr hp, Fields.find?, hne]

/-! ### Records inside records -/

variable (registry) in
/-- While the record of `s` is built, inside entities of the names `building`, the record of `t` is
built as the zero of one of its properties. -/
inductive Enters (building : List String) (s t : Schema) : Prop where
  | mk {p : Property} {w : Variant} (hp : p ∈ s.properties) (takes : p.TakesZero)
      (source : source? registry (s.name :: building) p = some w)
      (nested : w.nested? registry = some t) : Enters building s t

theorem sizeOf_lt_of_entity {s t : Schema} (hp : p ∈ s.properties)
    (hw : Variant.entity t ∈ p.variants) : sizeOf t < sizeOf s := by
  obtain ⟨serial, name, properties⟩ := s
  obtain ⟨name', variants, isArray⟩ := p
  have inner := List.sizeOf_lt_of_mem hw
  have outer := List.sizeOf_lt_of_mem hp
  simp only [Property.variants, Schema.properties, Variant.entity.sizeOf_spec,
    Property.mk.sizeOf_spec, Schema.mk.sizeOf_spec] at inner outer ⊢
  omega

/-- A nested schema is a smaller one; one that is referred to takes its name into those being
built. -/
theorem Enters.descends {s t : Schema} (h : Enters registry building s t) :
    Prod.Lex (· < ·) (· < ·)
      (unentered registry (t.name :: s.name :: building), sizeOf t)
      (unentered registry (s.name :: building), sizeOf s) := by
  rcases h with @⟨p, w, hp, -, source, nested⟩
  obtain ⟨v, hv⟩ := exists_zero_of_source? source
  have hw := mem_variants_of_source? source
  cases w with
  | entity s' =>
      obtain rfl : s' = t := Option.some.inj nested
      exact Prod.Lex.right' _ (unentered_mono (List.subset_cons_self ..))
        (sizeOf_lt_of_entity hp hw)
  | reference name =>
      obtain ⟨fields, hf, -⟩ := Option.map_eq_some_iff.mp hv
      obtain ⟨hn, -⟩ := referred_eq_some_iff.mp hf
      obtain rfl : t.name = name := Registry.name_of_get? nested
      exact .left _ _ (unentered_lt (mem_names_of_get? nested) hn (List.Subset.refl _))
  | _ => cases nested

variable (registry) in
/-- **Building comes to an end.**  What holds of a record once it holds of those built inside it
holds of every record. -/
theorem Enters.induction {motive : List String → Schema → Prop}
    (step : ∀ building s,
      (∀ t, Enters registry building s t → motive (s.name :: building) t) → motive building s)
    (building : List String) (s : Schema) : motive building s :=
  step building s fun t _ => Enters.induction step (s.name :: building) t
termination_by (unentered registry (s.name :: building), sizeOf s)
decreasing_by exact Enters.descends ‹_›

end Default

end Dossier
