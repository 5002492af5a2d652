import Dossier.Proofs.Schema.Building
import Dossier.Proofs.Schema.Grammar
import Dossier.Proofs.Json.Equality

/-!
# Default — with and without the fallback

A property whose variants all lack a zero falls back to the empty object, which need not be a value of
it.  Everything else in a default record is valid.

* `Schema.Built`: schemas as declarations make them, those nested in them included.
* `Schema.FallsBack`: somewhere in a default record, at whatever depth, a property has fallen back.
* `default_accepted`: a default record in which none has is one of its schema, in both modes.  The
  guard follows the value without the names in progress, and the proof follows the building, which
  ends (`Default.Enters.induction`).
* `shorthand_default`: a property with a variant that nests nothing always finds a zero.  Still the
  zero may be the record of an entity that an earlier variant nests, and that record may hold the
  fallback.  So a default record is valid when such variants are there at every depth.
* `shorthand_default_author`: it is not enough that they are there at the top.
-/

namespace Dossier

/-! ### Schemas as declarations make them -/

/-- The schema has been declared, and so have those nested in it; the members of its enumerations
are values as they are read. -/
inductive Schema.Built : Schema → Prop where
  | mk {serial : Nat} {name : String} {properties : List Property} {s : Schema}
      (declared : Schema.declare serial name properties = .ok s)
      (members : ∀ p ∈ properties, ∀ name members, Variant.enumeration name members ∈ p.variants →
        ∀ u ∈ members, u.WellFormed)
      (nested : ∀ p ∈ properties, ∀ t, Variant.entity t ∈ p.variants → Schema.Built t) :
      Schema.Built s

/-- So has every registered schema. -/
def Registry.Built (registry : Registry) : Prop := ∀ e ∈ registry.entries, e.2.Built

namespace Schema.Built

variable {registry : Registry} {s t : Schema} {p : Property} {w : Variant}

theorem nodup (hs : s.Built) : s.propertyNames.Nodup := by
  cases hs with
  | mk declared _ _ => exact nodup_of_declare declared

/-- No enumeration is empty. -/
theorem enumeration (hs : s.Built) (hp : p ∈ s.properties) {name : String} {members : List Json}
    (hw : .enumeration name members ∈ p.variants) :
    ∃ u rest, members = u :: rest ∧ u.WellFormed := by
  cases hs with
  | mk declared wellFormed _ =>
      obtain ⟨-, faultless, rfl⟩ := declare_eq_ok_iff.mp declared
      obtain ⟨hf, -⟩ := ((fault?_eq_none_iff ..).mp faultless).1 p hp
      cases members with
      | cons u rest => exact ⟨u, rest, rfl, wellFormed p hp name _ hw u (.head _)⟩
      | nil => exact absurd hw ((Property.fault?_eq_none_iff.mp hf).2.2 name)

/-- What a variant nests has been declared. -/
theorem of_nested (hs : s.Built) (hr : registry.Built) (hp : p ∈ s.properties)
    (hw : w ∈ p.variants) (hn : w.nested? registry = some t) : t.Built := by
  cases w with
  | entity t' =>
      obtain rfl : t' = t := Option.some.inj hn
      cases hs with
      | mk declared _ nested =>
          obtain ⟨-, -, rfl⟩ := declare_eq_ok_iff.mp declared
          exact nested p hp _ hw
  | reference name => exact hr _ (Fields.mem_of_find? hn)
  | _ => cases hn

end Schema.Built

/-! ### Zeros and the guard -/

namespace Default

variable {registry : Registry} {mode : Mode} {building : List String} {s : Schema} {p : Property}
  {w : Variant}

/-- A well-formed value is the member that it is. -/
theorem same_self {u : Json} (h : u.WellFormed) : u.Same Number.SameDouble u := by
  cases u with
  | num n => exact Number.agrees_of_value_eq rfl
  | _ => exact h.equal_refl

/-- The zero of a variant that nests nothing fits the variant. -/
theorem fits_zero {v : Json} (hn : w.nested? registry = none) (ha : w.isAbsent = false)
    (members : ∀ name members, w = .enumeration name members →
      ∃ u rest, members = u :: rest ∧ u.WellFormed)
    (hv : ofVariant (referred registry) building w = some v) : w.fits registry mode v = true := by
  cases w with
  | absent => cases ha
  | entity s => cases hn
  | reference name =>
      obtain ⟨fields, hf, -⟩ := Option.map_eq_some_iff.mp hv
      obtain ⟨-, s, hs, -⟩ := referred_eq_some_iff.mp hf
      cases hs.symm.trans hn
  | enumeration name members' =>
      obtain ⟨u, rest, rfl, hu⟩ := members name members' rfl
      obtain rfl : u = v := Option.some.inj hv
      rw [Variant.fits_enumeration]
      exact Variant.hasMember_iff.mpr ⟨u, .head _, same_self hu⟩
  | _ =>
      obtain rfl := Option.some.inj hv
      exact Variant.fits_eq ..

/-- A default record is one of its schema when every property that has a zero in it takes the
zero. -/
theorem accepts_ofSchema_iff (hs : s.propertyNames.Nodup) :
    s.accepts registry mode (.obj (ofSchema (referred registry) building s)) = true ↔
      ∀ p ∈ s.properties, p.TakesZero →
        p.holds registry mode (ofProperty (referred registry) (s.name :: building) p) = true := by
  have entry (p) (hp : p ∈ s.properties) :
      Fields.find? (ofSchema (referred registry) building s) p.name
        = ofProperty (referred registry) (s.name :: building) p := by
    obtain ⟨serial, name, properties⟩ := s
    exact find?_ofProperties _ hs hp
  have keys : s.keysPass mode (ofSchema (referred registry) building s) = true := by
    refine Schema.keysPass_iff.mpr fun _ key hk => Schema.declares_iff.mpr ?_
    obtain ⟨serial, name, properties⟩ := s
    rw [ofSchema, keys_ofProperties] at hk
    exact (List.filter_sublist.map Property.name).subset hk
  rw [Schema.accepts_obj_iff]
  constructor
  · rintro ⟨-, holds⟩ p hp -
    exact entry p hp ▸ holds p hp
  · intro zeros
    refine ⟨keys, fun p hp => ?_⟩
    rw [entry p hp]
    cases ho : p.isOptional with
    | true =>
        -- the property is left out
        rwa [ofProperty_of_optional ho]
    | false =>
        cases ha : p.isArray with
        | false => exact zeros p hp ⟨ho, ha⟩
        | true =>
            rw [ofProperty_of_isArray ho ha, Property.holds, Property.fits_iff, if_pos ha]
            exact ⟨[], rfl, fun u hu => absurd hu List.not_mem_nil⟩

/-- A property takes its zero, where it takes the record of what its source nests. -/
theorem holds_zero (hs : s.Built) (hp : p ∈ s.properties) (takes : p.TakesZero)
    (source : source? registry building p = some w)
    (nested : ∀ t, w.nested? registry = some t →
      p.fits registry mode (.obj (ofSchema (referred registry) building t)) = true) :
    p.holds registry mode (ofProperty (referred registry) building p) = true := by
  obtain ⟨v, hv⟩ := exists_zero_of_source? source
  rw [ofProperty_of_source? takes source, hv, Property.holds]
  cases hn : w.nested? registry with
  | some t =>
      rw [ofVariant_of_nested hn hv]
      exact nested t hn
  | none =>
      obtain ⟨hw, ha⟩ := List.mem_filter.mp (mem_present_of_source? source)
      have fits : w.fits registry mode v = true :=
        fits_zero hn (by simpa using ha) (fun _ _ he => hs.enumeration hp (he ▸ hw)) hv
      rw [Property.fits_iff, if_neg (Bool.eq_false_iff.mp takes.single)]
      exact ⟨w, mem_present_of_source? source, fits⟩

end Default

/-! ### Records without a fallback -/

/-- While the default record of the schema is built, inside entities of the names `building`, a
property falls back to the empty object: one of the schema's own, or one of a nested entity. -/
inductive Schema.FallsBack (registry : Registry) : List String → Schema → Prop where
  | here {building : List String} {s : Schema} {p : Property} (hp : p ∈ s.properties)
      (takes : p.TakesZero) (lacking : Default.source? registry (s.name :: building) p = none) :
      Schema.FallsBack registry building s
  | nested {building : List String} {s t : Schema} (enters : Default.Enters registry building s t)
      (h : Schema.FallsBack registry (s.name :: building) t) : Schema.FallsBack registry building s

/-- Nothing falls back when every property that takes a zero has a source, and nothing does in what
the source nests. -/
theorem Schema.not_fallsBack_iff {registry : Registry} {building : List String} {s : Schema} :
    ¬ s.FallsBack registry building ↔
      ∀ p ∈ s.properties, p.TakesZero →
        ∃ w, Default.source? registry (s.name :: building) p = some w
          ∧ ∀ t, w.nested? registry = some t → ¬ t.FallsBack registry (s.name :: building) := by
  constructor
  · intro h p hp takes
    cases source : Default.source? registry (s.name :: building) p with
    | none => exact absurd (.here hp takes source) h
    | some w => exact ⟨w, rfl, fun t hn ht => h (.nested ⟨hp, takes, source, hn⟩ ht)⟩
  · intro clean h
    cases h with
    | here hp takes lacking =>
        obtain ⟨w, source, -⟩ := clean _ hp takes
        cases lacking.symm.trans source
    | nested enters ht =>
        obtain ⟨hp, takes, source, hn⟩ := enters
        obtain ⟨w, source', inner⟩ := clean _ hp takes
        obtain rfl := Option.some.inj (source.symm.trans source')
        exact inner _ hn ht

namespace Default

variable {registry : Registry}

/-- **Without a fallback a default record is valid**, also one inside others. -/
theorem accepts_of_not_fallsBack (hr : registry.Built) (mode : Mode) (building : List String)
    (s : Schema) (hs : s.Built) (h : ¬ s.FallsBack registry building) :
    s.accepts registry mode (.obj (ofSchema (referred registry) building s)) = true := by
  induction building, s using Enters.induction registry with
  | step building s ih =>
      refine (accepts_ofSchema_iff hs.nodup).mpr fun p hp takes => ?_
      obtain ⟨w, source, clean⟩ := Schema.not_fallsBack_iff.mp h p hp takes
      refine holds_zero hs hp takes source fun t hn => ?_
      have built : t.Built := hs.of_nested hr hp (mem_variants_of_source? source) hn
      have fits : w.fits registry mode (.obj (ofSchema (referred registry) (s.name :: building) t))
          = true := by
        rw [Variant.fits_of_nested registry hn]
        exact ih t ⟨hp, takes, source, hn⟩ built (clean t hn)
      rw [Property.fits_iff, if_neg (Bool.eq_false_iff.mp takes.single)]
      exact ⟨w, mem_present_of_source? source, fits⟩

end Default

/-- **Defaults are valid.**  For a declared schema over declared ones, a default record that is built
without falling back is one of the schema in either mode, and it holds the required properties in the
order of the declaration. -/
theorem default_accepted {registry : Registry} (hr : registry.Built) {s : Schema} (hs : s.Built)
    (h : ¬ s.FallsBack registry []) :
    (∀ mode, s.accepts registry mode (s.defaultRecord registry) = true)
    ∧ Fields.keys (s.defaultFields registry) = s.requiredNames :=
  ⟨fun mode => Default.accepts_of_not_fallsBack hr mode [] s hs h,
    s.keys_defaultFields registry⟩

/-- Someone with a favourite book, if they have one. -/
def Schema.author : Schema :=
  .mk 0 "Author" [.mk "name" [.string] false, .mk "favourite" [.reference "Book", .null] false]

/-- A cover, which may have a colour. -/
def Schema.cover : Schema := .mk 1 "Cover" [.mk "colour" [.string, .absent] false]

/-- A book, always by someone. -/
def Schema.book : Schema :=
  .mk 2 "Book" [.mk "kind" [.enumeration "Kind" [.str "novel", .null]] false,
    .mk "notes" [.string] true, .mk "cover" [.entity cover] false,
    .mk "author" [.reference "Author"] false]

/-- Authors and books, which refer to one another. -/
def Registry.library : Registry :=
  ⟨[("Author", Schema.author), ("Book", Schema.book)], by decide, by decide⟩

theorem Schema.built_author : Schema.author.Built :=
  @Built.mk 0 "Author" author.properties _ rfl (by simp [author, properties, Property.variants])
    (by simp [author, properties, Property.variants])

theorem Schema.built_cover : Schema.cover.Built :=
  @Built.mk 1 "Cover" cover.properties _ rfl (by simp [cover, properties, Property.variants])
    (by simp [cover, properties, Property.variants])

theorem Schema.built_book : Schema.book.Built :=
  @Built.mk 2 "Book" book.properties _ rfl
    (by simp [book, properties, Property.variants, Json.WellFormed])
    (by simp [book, properties, Property.variants, built_cover])

theorem Registry.built_library : Registry.library.Built := by
  simp [Registry.Built, library, Schema.built_author, Schema.built_book]

/-- A book's author has no favourite in it: that would be a book again. -/
theorem Schema.not_fallsBack_book : ¬ Schema.book.FallsBack .library [] := by
  have author : ¬ Schema.author.FallsBack .library ["Book"] := by
    refine not_fallsBack_iff.mpr fun p hp takes => ?_
    simp only [author, properties, List.mem_cons, List.not_mem_nil, or_false] at hp
    rcases hp with rfl | rfl
    · exact ⟨.string, rfl, fun _ ht => by cases ht⟩
    · exact ⟨.null, rfl, fun _ ht => by cases ht⟩
  have cover : ¬ Schema.cover.FallsBack .library ["Book"] := by
    refine not_fallsBack_iff.mpr fun p hp takes => ?_
    obtain rfl := List.mem_singleton.mp hp
    cases takes.required
  refine not_fallsBack_iff.mpr fun p hp takes => ?_
  simp only [book, properties, List.mem_cons, List.not_mem_nil, or_false] at hp
  rcases hp with rfl | rfl | rfl | rfl
  · exact ⟨_, rfl, fun _ ht => by cases ht⟩
  · cases takes.single
  · exact ⟨_, rfl, fun t ht => Option.some.inj ht ▸ cover⟩
  · exact ⟨_, rfl, fun t ht => Option.some.inj ht ▸ author⟩

theorem default_accepted_book :
    Registry.library.Built ∧ Schema.book.Built ∧ ¬ Schema.book.FallsBack .library []
      ∧ Schema.book.accepts .library .development (Schema.book.defaultRecord .library) = true
      ∧ Schema.book.accepts .library .production (Schema.book.defaultRecord .library) = true
      ∧ Fields.keys (Schema.book.defaultFields .library) = ["kind", "notes", "cover", "author"] := by
  obtain ⟨accepted, keys⟩ := default_accepted Registry.built_library Schema.built_book
    Schema.not_fallsBack_book
  exact ⟨Registry.built_library, Schema.built_book, Schema.not_fallsBack_book,
    accepted .development, accepted .production, keys⟩

/-! ### Variants that nest nothing -/

/-- Neither does the variant nest an entity, nor does it stand for a value that is left out. -/
def Variant.isShorthand : Variant → Bool
  | .entity _ | .reference _ | .absent => false
  | _ => true

/-- Every property that takes a zero has a variant that nests nothing. -/
def Schema.Shorthand (s : Schema) : Prop :=
  ∀ p ∈ s.properties, p.TakesZero → ∃ w ∈ p.variants, w.isShorthand = true

namespace Schema

variable {registry : Registry} {building : List String} {s : Schema}

/-- A variant that nests nothing has a zero, so such a property finds one. -/
theorem Shorthand.source (h : s.Shorthand) {p : Property} (hp : p ∈ s.properties)
    (takes : p.TakesZero) : Default.source? registry building p ≠ none := by
  obtain ⟨w, hw, hs⟩ := h p hp takes
  have zero : (Default.ofVariant (Default.referred registry) building w).isSome = true := by
    cases w <;> first | rfl | cases hs
  have present : w ∈ p.present := List.mem_filter.mpr ⟨hw, by cases w <;> first | rfl | cases hs⟩
  rw [Default.source?, ne_eq, List.find?_eq_none]
  exact fun none => none w present zero

/-- What has such variants at every depth does not fall back. -/
theorem not_fallsBack_of_shorthand (hs : s.Shorthand)
    (nested : ∀ w t, s.Reaches registry w → w.nested? registry = some t → t.Shorthand) :
    ¬ s.FallsBack registry building := by
  intro h
  induction h with
  | here hp takes lacking => exact hs.source hp takes lacking
  | nested enters _ ih =>
      obtain ⟨hp, -, source, hn⟩ := enters
      have hw := Default.mem_variants_of_source? source
      exact ih (nested _ _ (.variant hp hw) hn) fun w t hr => nested w t (.nested hp hw hn hr)

end Schema

/-- **A variant that nests nothing keeps the default valid**, as long as no zero is the record of an
entity that has none.  For a declared schema each of whose properties that take a zero has such a
variant, the default record is one of the schema exactly when every property whose zero is the record
of a nested entity takes that record.  It does where no such record holds the fallback, and so where
the entities nested in the schema have such variants too, at every depth. -/
theorem shorthand_default {registry : Registry} (hr : registry.Built) {s : Schema} (hs : s.Built)
    (shorthand : s.Shorthand) :
    (∀ mode, s.accepts registry mode (s.defaultRecord registry) = true ↔
      ∀ p ∈ s.properties, p.TakesZero → ∀ w t, Default.source? registry [s.name] p = some w →
        w.nested? registry = some t → p.fits registry mode
          (.obj (Default.ofSchema (Default.referred registry) [s.name] t)) = true)
    ∧ ((∀ t, Default.Enters registry [] s t → ¬ t.FallsBack registry [s.name]) →
      ∀ mode, s.accepts registry mode (s.defaultRecord registry) = true)
    ∧ ((∀ w t, s.Reaches registry w → w.nested? registry = some t → t.Shorthand) →
      ∀ mode, s.accepts registry mode (s.defaultRecord registry) = true) := by
  refine ⟨fun mode => ?_, fun clean mode => ?_, fun nested mode => ?_⟩
  · refine (Default.accepts_ofSchema_iff hs.nodup).trans ⟨fun zeros p hp takes w t source hn => ?_,
      fun records p hp takes => ?_⟩
    · obtain ⟨v, hv⟩ := Default.exists_zero_of_source? source
      have holds := zeros p hp takes
      rwa [Default.ofProperty_of_source? takes source, hv, Default.ofVariant_of_nested hn hv] at holds
    · obtain ⟨w, source⟩ := Option.ne_none_iff_exists'.mp (shorthand.source hp takes)
      exact Default.holds_zero hs hp takes source fun t hn => records p hp takes w t source hn
  · refine Default.accepts_of_not_fallsBack hr mode [] s hs fun h => ?_
    cases h with
    | here hp takes lacking => exact shorthand.source hp takes lacking
    | nested enters h => exact clean _ enters h
  · exact Default.accepts_of_not_fallsBack hr mode [] s hs
      (Schema.not_fallsBack_of_shorthand shorthand nested)

/-- Someone who may have a book out. -/
def Schema.reader : Schema := .mk 3 "Reader" [.mk "loan" [.reference "Loan", .null] false]

/-- A book that is out, to a reader or to someone else. -/
def Schema.loan : Schema := .mk 4 "Loan" [.mk "to" [.reference "Reader", .string] false]

/-- Readers and loans, which refer to one another. -/
def Registry.desk : Registry :=
  ⟨[("Reader", Schema.reader), ("Loan", Schema.loan)], by decide, by decide⟩

namespace Schema

theorem built_reader : reader.Built :=
  @Built.mk 3 "Reader" reader.properties _ rfl (by simp [reader, properties, Property.variants])
    (by simp [reader, properties, Property.variants])

theorem built_loan : loan.Built :=
  @Built.mk 4 "Loan" loan.properties _ rfl (by simp [loan, properties, Property.variants])
    (by simp [loan, properties, Property.variants])

theorem built_desk : Registry.desk.Built := by
  simp [Registry.Built, Registry.desk, built_reader, built_loan]

theorem shorthand_reader : reader.Shorthand := by
  intro p hp _
  obtain rfl := List.mem_singleton.mp hp
  exact ⟨.null, .tail _ (.head _), rfl⟩

theorem shorthand_loan : loan.Shorthand := by
  intro p hp _
  obtain rfl := List.mem_singleton.mp hp
  exact ⟨.string, .tail _ (.head _), rfl⟩

/-- Only readers and loans are registered, and they nest nothing else. -/
theorem shorthand_of_desk {s t : Schema} {w : Variant} (h : s.Reaches .desk w)
    (hs : s = reader ∨ s = loan) (hn : w.nested? .desk = some t) : t.Shorthand := by
  have step {s t : Schema} {p : Property} {w : Variant} (hs : s = reader ∨ s = loan)
      (hp : p ∈ s.properties) (hw : w ∈ p.variants) (hn : w.nested? .desk = some t) :
      t = reader ∨ t = loan := by
    rcases hs with rfl | rfl <;> obtain rfl := List.mem_singleton.mp hp <;>
      simp only [Property.variants, List.mem_cons, List.not_mem_nil, or_false] at hw <;>
      rcases hw with rfl | rfl
    · exact .inr (Option.some.inj hn).symm
    · cases hn
    · exact .inl (Option.some.inj hn).symm
    · cases hn
  induction h with
  | variant hp hw =>
      rcases step hs hp hw hn with rfl | rfl
      · exact shorthand_reader
      · exact shorthand_loan
  | nested hp hw hn' _ ih => exact ih (step hs hp hw hn') hn

end Schema

/-- The default reader has a loan to the empty text: a reader again would be one being built. -/
theorem shorthand_default_reader :
    Registry.desk.Built ∧ Schema.reader.Built ∧ Schema.reader.Shorthand
      ∧ (∀ w t, Schema.reader.Reaches .desk w → w.nested? .desk = some t → t.Shorthand)
      ∧ Schema.reader.defaultRecord .desk = .obj [("loan", .obj [("to", .str "")])]
      ∧ ∀ mode, Schema.reader.accepts .desk mode (Schema.reader.defaultRecord .desk) = true := by
  have nested (w : Variant) (t : Schema) (hr : Schema.reader.Reaches .desk w)
      (hn : w.nested? .desk = some t) : t.Shorthand :=
    Schema.shorthand_of_desk hr (.inl rfl) hn
  obtain ⟨-, -, everywhere⟩ := shorthand_default Schema.built_desk Schema.built_reader
    Schema.shorthand_reader
  exact ⟨Schema.built_desk, Schema.built_reader, Schema.shorthand_reader, nested, rfl,
    everywhere nested⟩

/-- **It is not enough at the top.**  An author's favourite may be null, so that every property of an
author has a variant that nests nothing.  Yet the default author has a favourite book, and the author
of that one has fallen back to the empty object. -/
theorem shorthand_default_author :
    Registry.library.Built ∧ Schema.author.Built ∧ Schema.author.Shorthand
      ∧ Schema.author.defaultRecord .library = .obj [("name", .str ""),
          ("favourite", .obj [("kind", .str "novel"), ("notes", .arr []), ("cover", .obj []),
            ("author", .obj [])])]
      ∧ ∀ mode, Schema.author.accepts .library mode (Schema.author.defaultRecord .library)
        = false := by
  refine ⟨Registry.built_library, Schema.built_author, fun p hp _ => ?_, rfl, fun mode => ?_⟩
  · simp only [Schema.author, Schema.properties, List.mem_cons, List.not_mem_nil, or_false] at hp
    rcases hp with rfl | rfl
    · exact ⟨.string, .head _, rfl⟩
    · exact ⟨.null, .tail _ (.head _), rfl⟩
  · cases mode <;> decide

end Dossier
