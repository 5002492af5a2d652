import Dossier.Proofs.Entity.Lifetime
import Dossier.Proofs.Schema.Compatibility

/-!
# Entity — entities under the properties of others

* `Entity.Hosts`: a valid entity may stand under a property that nests its schema, in an entity of
  its own mode or of production.
* `Entity.Hosts.fits`: the property takes its record, as a value or as an item, whatever other
  variants it has.
* `Schema.acceptsWidened_dto`: a widened guard takes the record of a live entity where it takes the
  entity, and besides where an enumeration has the record as a member.
* `nesting_composes`: so setting such a property succeeds, stores the record and keeps the entity around
  it valid; and a guard whose enumerations hold no objects does not tell an entity from its record.
-/

namespace Dossier

variable {registry : Registry} {mode : Mode}

/-- What is a record in a mode is one in that mode and in production. -/
theorem Schema.accepts_of_mode {mode' : Mode} (h : mode' = mode ∨ mode' = .production) {s : Schema}
    {v : Json} (hv : s.accepts registry mode v = true) : s.accepts registry mode' v = true := by
  rcases h with rfl | rfl
  · exact hv
  · exact (Guard.Simulation.production registry mode).accepts v s s rfl hv

theorem Property.mem_present_of_nested {p : Property} {w : Variant} {s : Schema}
    (hw : w ∈ p.variants) (h : w.nested? registry = some s) : w ∈ p.present := by
  refine List.mem_filter.mpr ⟨hw, ?_⟩
  cases w with
  | absent => cases h
  | _ => rfl

namespace Entity

variable {o e : Entity} {p : Property}

/-- The entity `e` may stand under the property `p` of `o`: it is valid, the mode of `o` asks for no
more than its own, and the property nests its schema. -/
structure Hosts (registry : Registry) (o : Entity) (p : Property) (e : Entity) : Prop where
  valid : e.Valid registry
  mode : o.mode = e.mode ∨ o.mode = .production
  nested : ∃ w ∈ p.variants, w.nested? registry = some e.schema

theorem Hosts.fits (h : o.Hosts registry p e) :
    ∃ w ∈ p.present, w.fits registry o.mode e.dto = true := by
  obtain ⟨w, hw, hn⟩ := h.nested
  refine ⟨w, Property.mem_present_of_nested hw hn, ?_⟩
  rw [Variant.fits_of_nested registry hn]
  exact Schema.accepts_of_mode h.mode h.valid

theorem Hosts.fits_dto (h : o.Hosts registry p e) (ha : p.isArray = false) :
    p.fits registry o.mode e.dto = true := by
  rw [Property.fits_iff, ha]
  exact h.fits

theorem fits_dtos {es : List Entity} (h : ∀ e ∈ es, o.Hosts registry p e) (ha : p.isArray = true) :
    p.fits registry o.mode (.arr (es.map dto)) = true := by
  rw [Property.fits_iff, ha]
  refine ⟨es.map dto, rfl, fun u hu => ?_⟩
  obtain ⟨e, he, rfl⟩ := List.mem_map.mp hu
  exact (h e he).fits

/-- Setting the property to the value succeeds; the entity then has it there, and is still valid if
it was. -/
def Admits (registry : Registry) (o : Entity) (property : String) (value : Json) : Prop :=
  ∃ o', o.set registry property value = .ok o' ∧ o'.get? property = some value
    ∧ (o.Valid registry → o'.Valid registry)

/-- An entity admits a value that a property of its own takes. -/
theorem admits_of_fits (hs : o.schema.propertyNames.Nodup) (hp : p ∈ o.schema.properties)
    {value : Json} (hv : p.fits registry o.mode value = true) :
    o.Admits registry p.name value := by
  have declared := (Schema.property?_eq_some_iff hs).mpr ⟨hp, rfl⟩
  have set := (set_eq_ok_iff (e := o)).mpr ⟨p, declared, hv, rfl⟩
  exact ⟨_, set, get?_of_set set, (Changed.written declared hv).valid hs⟩

end Entity

/-! ### A live entity and its record -/

namespace Variant

/-- Is the variant an enumeration with the value as a member? -/
def lists (v : Json) : Variant → Bool
  | .enumeration _ members => hasMember members v
  | _ => false

/-- Of all variants only an enumeration tells an entity from its record. -/
theorem accepts_dto (w : Variant) (e : Entity) :
    w.accepts registry mode (.json e.dto)
      = (w.accepts registry mode (.entity e) || w.lists e.dto) := by
  cases w <;> simp [accepts, lists, fits_eq, nested?, fitsPlain, Entity.dto]

/-- An enumeration without objects among its members lists no object. -/
theorem lists_obj {w : Variant}
    (h : ∀ name members, w = .enumeration name members → ∀ u ∈ members, u.obj? = none)
    (fields : Fields Json) : w.lists (.obj fields) = false := by
  cases w with
  | enumeration name members =>
      refine List.any_eq_false.mpr fun u hu => ?_
      cases u with
      | obj others => cases h name members rfl _ hu
      | _ => simp [Json.equal]
  | _ => rfl

end Variant

/-- A widened guard takes the record of an entity where it takes the entity, or where one of its
enumerations has the record as a member. -/
theorem Schema.acceptsWidened_dto (s : Schema) (extra : List Variant) (e : Entity) :
    s.acceptsWidened registry mode extra (.json e.dto)
      = (s.acceptsWidened registry mode extra (.entity e) || extra.any (Variant.lists e.dto)) := by
  -- the schema's own variant is no enumeration
  have own : (∃ w ∈ s.widened extra, w.lists e.dto = true) ↔ ∃ w ∈ extra, w.lists e.dto = true := by
    simp [widened, Variant.lists]
  rw [Bool.eq_iff_iff, acceptsWidened, acceptsWidened]
  simp only [Bool.or_eq_true, List.any_eq_true, Variant.accepts_dto, and_or_left, exists_or, own]

/-- An enumeration of objects takes a record that it has as a member, and not the entity. -/
example :
    let extra := [Variant.enumeration "Known" [Entity.folder.dto]]
    Schema.icon.acceptsWidened .shelf .development extra (.json Entity.folder.dto) = true
      ∧ Schema.icon.acceptsWidened .shelf .development extra (.entity Entity.folder) = false := by
  decide

/-- **Nested entities compose.**  A declared property that nests the schema of a valid entity is set
to its record, or, as an array, to the records of any such entities, where the entity around it is in
the same mode or in production; and this has the record there and stays valid if it was.  A widened
guard whose enumerations have no object as a member decides about a live entity as about its
record. -/
theorem nesting_composes (registry : Registry) :
    (∀ (serial : Nat) (name : String) (properties : List Property) (o : Entity),
      Schema.declare serial name properties = .ok o.schema → ∀ p ∈ o.schema.properties,
        (p.isArray = false → ∀ e, o.Hosts registry p e → o.Admits registry p.name e.dto)
        ∧ (p.isArray = true → ∀ es : List Entity, (∀ e ∈ es, o.Hosts registry p e) →
          o.Admits registry p.name (.arr (es.map Entity.dto))))
    ∧ ∀ (s : Schema) (mode : Mode) (extra : List Variant),
      (∀ name members, .enumeration name members ∈ extra → ∀ u ∈ members, u.obj? = none) →
      ∀ e : Entity, s.acceptsWidened registry mode extra (.entity e)
        = s.acceptsWidened registry mode extra (.json e.dto) := by
  refine ⟨fun serial name properties o hs p hp => ?_, fun s mode extra hx e => ?_⟩
  · have names := Schema.nodup_of_declare hs
    exact ⟨fun ha e he => Entity.admits_of_fits names hp (he.fits_dto ha),
      fun ha es he => Entity.admits_of_fits names hp (Entity.fits_dtos he ha)⟩
  · have none : extra.any (Variant.lists e.dto) = false :=
      List.any_eq_false.mpr fun w hw =>
        Bool.not_eq_true _ ▸ Variant.lists_obj (fun name members h => hx name members (h ▸ hw)) _
    rw [Schema.acceptsWidened_dto, none, Bool.or_false]

/-- A file that is no link. -/
def Entity.file : Entity := ⟨Schema.file, [("link", .null)], .development⟩

/-- The folder in production. -/
def Entity.archive : Entity := { Entity.folder with mode := .production }

/-- The file becomes a link to the folder, and the archive gets two files. -/
theorem nesting_composes_shelf :
    let extra := [Variant.enumeration "Size" [.str "big", .zero], .reference "Folder"]
    Schema.declare 2 "File" Schema.file.properties = .ok Entity.file.schema
      ∧ Schema.declare 1 "Folder" Schema.folder.properties = .ok Entity.archive.schema
      ∧ Entity.file.Admits .shelf "link" Entity.folder.dto
      ∧ Entity.archive.Admits .shelf "files" (.arr [Entity.file.dto, Entity.file.dto])
      ∧ Schema.icon.acceptsWidened .shelf .development extra (.entity Entity.folder)
        = Schema.icon.acceptsWidened .shelf .development extra (.json Entity.folder.dto) := by
  intro extra
  have file : Schema.declare 2 "File" Schema.file.properties = .ok Entity.file.schema := rfl
  have folder : Schema.declare 1 "Folder" Schema.folder.properties = .ok Entity.archive.schema := rfl
  obtain ⟨admits, verdicts⟩ := nesting_composes .shelf
  have link := (admits 2 "File" _ Entity.file file
    (.mk "link" [.reference "Folder", .null] false) (.head _)).1
  have files := (admits 1 "Folder" _ Entity.archive folder
    (.mk "files" [.reference "File", .string] true) (.tail _ (.tail _ (.head _)))).2
  refine ⟨file, folder, link rfl Entity.folder ?_, files rfl [.file, .file] ?_, ?_⟩
  · exact ⟨by unfold Entity.Valid; decide, .inl rfl, .reference "Folder", .head _, rfl⟩
  · intro e he
    obtain rfl : e = Entity.file := by simpa using he
    exact ⟨by unfold Entity.Valid; decide, .inr rfl, .reference "File", .head _, rfl⟩
  · refine verdicts Schema.icon .development extra (fun name members h u hu => ?_) Entity.folder
    obtain ⟨-, rfl⟩ : name = "Size" ∧ members = [.str "big", .zero] := by simpa [extra] using h
    obtain rfl | rfl : u = .str "big" ∨ u = .zero := by simpa using hu
    · rfl
    · rfl

end Dossier
