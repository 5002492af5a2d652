import Mathlib.Data.List.Forall2
import Dossier.Candidate
import Dossier.Proofs.Schema.Guard

/-!
# Compatibility — one value, two registries

A variant that refers to a name means whatever schema is registered under it when a value is
checked.  So a verdict depends on the registry, at every depth and around every cycle of references.

* `registering_keeps`: in a registry that has grown, every value and every candidate that was
  accepted still is.
* `Schema.Keeps`: a newer schema declares every property of an older one, and perhaps more; so may
  the schemas nested in it.
* `forward_compatible`: between two registries of the same names where each newer schema keeps the
  older one, what the newer accepts in either mode the older accepts in production.
-/

namespace Dossier

/-! ### A registry that grows -/

/-- Registering any schemas, one after the other, takes no binding away. -/
theorem Registry.extends_registerAll (r : Registry) (schemas : List Schema) :
    r.Extends (schemas.foldl (fun r s => (r.register s).2) r) := by
  induction schemas generalizing r with
  | nil => exact .refl r
  | cons s rest ih => exact (r.extends_register s).trans (ih _)

namespace Variant

variable {r r' : Registry} {m : Mode} {w : Variant}

theorem fits_of_extends (h : r.Extends r') {v : Json} (hv : w.fits r m v = true) :
    w.fits r' m v = true :=
  (h.simulation m).fits (fun _ _ hs ha => hs ▸ Schema.accepts_of_extends h ha)
    (.same fun _ _ => rfl) hv

/-- A live entity's record is checked like a value. -/
theorem accepts_of_extends (h : r.Extends r') {c : Candidate} (hc : w.accepts r m c = true) :
    w.accepts r' m c = true := by
  cases c with
  | absent => exact hc
  | json v => exact fits_of_extends h hc
  | entity e =>
      cases w with
      | entity s => exact fits_of_extends h hc
      | reference name => exact fits_of_extends h hc
      | _ => exact hc

end Variant

/-- **Registering invalidates nothing.**  A registry that holds every binding of another accepts
what the other accepts: a value for a schema, and a candidate for a variant and for a widened
schema. -/
theorem registering_keeps {r r' : Registry} (h : r.Extends r') (mode : Mode) :
    (∀ (s : Schema) (v : Json), s.accepts r mode v = true → s.accepts r' mode v = true)
    ∧ (∀ (w : Variant) (c : Candidate), w.accepts r mode c = true → w.accepts r' mode c = true)
    ∧ ∀ (s : Schema) (extra : List Variant) (c : Candidate),
      s.acceptsWidened r mode extra c = true → s.acceptsWidened r' mode extra c = true := by
  refine ⟨fun s v => Schema.accepts_of_extends h, fun w c => Variant.accepts_of_extends h,
    fun s extra c hc => ?_⟩
  obtain ⟨w, hw, ha⟩ := List.any_eq_true.mp hc
  exact List.any_eq_true.mpr ⟨w, hw, Variant.accepts_of_extends h ha⟩

/-- A mark of a folder. -/
def Schema.icon : Schema := .mk 0 "Icon" [.mk "glyph" [.string] false]

/-- A folder, with the files in it. -/
def Schema.folder : Schema :=
  .mk 1 "Folder" [.mk "name" [.string] false, .mk "icon" [.entity icon, .absent] false,
    .mk "files" [.reference "File", .string] true]

/-- A file, with the folder that it stands for, if it is a link. -/
def Schema.file : Schema := .mk 2 "File" [.mk "link" [.reference "Folder", .null] false]

/-- Folders and files, which refer to one another. -/
def Registry.shelf : Registry :=
  ⟨[("Folder", Schema.folder), ("File", Schema.file)], by decide, by decide⟩

/-- A folder with a plain file and a link to another folder. -/
def Entity.folder : Entity :=
  ⟨Schema.folder,
    [("files", .arr [.str "readme",
        .obj [("link", .obj [("name", .str "b"), ("files", .arr [])])]]), ("name", .str "a")],
    .development⟩

/-- Another schema is registered under a taken name, and one under a new name. -/
theorem registering_keeps_shelf :
    let grown := [Schema.mk 3 "File" [], Schema.mk 4 "Tag" []].foldl
      (fun r s => (r.register s).2) Registry.shelf
    Registry.shelf.Extends grown
      ∧ Schema.folder.accepts grown .development Entity.folder.dto = true
      ∧ (Variant.reference "Folder").accepts grown .development (.entity Entity.folder) = true
      ∧ Schema.file.acceptsWidened grown .development [.reference "Folder"] (.entity Entity.folder)
        = true := by
  intro grown
  have grows := Registry.shelf.extends_registerAll [.mk 3 "File" [], .mk 4 "Tag" []]
  obtain ⟨values, candidates, widened⟩ := registering_keeps grows .development
  exact ⟨grows, values _ _ (by decide), candidates _ _ (by decide), widened _ _ _ (by decide)⟩

/-! ### Schemas that keep what an older one declares -/

mutual

/-- The same variant, or one that nests a schema which keeps the one nested before. -/
inductive Variant.Keeps : Variant → Variant → Prop where
  | same (w : Variant) : Variant.Keeps w w
  | entity {newer older : Schema} (h : Schema.Keeps newer older) :
      Variant.Keeps (.entity newer) (.entity older)

/-- The schema declares the property: under its name, as an array if it is one, and with its
variants. -/
inductive Schema.Retains : Schema → Property → Prop where
  | mk {s : Schema} {q p : Property} (declared : q ∈ s.properties) (name : q.name = p.name)
      (isArray : q.isArray = p.isArray) (variants : List.Forall₂ Variant.Keeps q.variants p.variants) :
      Schema.Retains s p

/-- The newer schema declares every property of the older one. -/
inductive Schema.Keeps : Schema → Schema → Prop where
  | mk {newer older : Schema} (h : ∀ p ∈ older.properties, Schema.Retains newer p) :
      Schema.Keeps newer older

end

/-- A schema to which properties have been added keeps what it was. -/
theorem Schema.Keeps.of_subset {newer older : Schema}
    (h : ∀ p ∈ older.properties, p ∈ newer.properties) : newer.Keeps older :=
  .mk fun p hp => .mk (h p hp) rfl rfl (List.forall₂_same.mpr fun w _ => .same w)

theorem Schema.Keeps.refl (s : Schema) : s.Keeps s := .of_subset fun _ hp => hp

theorem Variant.Keeps.related {w w' : Variant} (h : w.Keeps w') : w.Related Schema.Keeps w' := by
  cases h with
  | same => exact .same fun s _ => .refl s
  | entity h => exact .entity h

theorem Schema.Keeps.properties {newer older : Schema} (h : newer.Keeps older) :
    ∀ p ∈ older.properties, ∃ q ∈ newer.properties, q.Related Schema.Keeps p := by
  intro p hp
  cases h with
  | mk h =>
      cases h p hp with
      | @mk _ q _ declared name isArray variants =>
          refine ⟨q, declared, name, isArray, fun w hw => ?_⟩
          -- the variants stand in the same places
          obtain ⟨i, hi, rfl⟩ := List.getElem_of_mem hw
          have hi' : i < p.variants.length := variants.length_eq ▸ hi
          exact ⟨p.variants[i], List.getElem_mem hi', (variants.get hi hi').related⟩

/-- Two registries of the same names, where the newer schema of each name keeps the older one. -/
structure Registry.Keeps (newer older : Registry) : Prop where
  names (name : String) : newer.contains name = older.contains name
  schemas {name : String} {s s' : Schema} :
    newer.get? name = some s → older.get? name = some s' → s.Keeps s'

namespace Registry.Keeps

variable {newer older : Registry}

/-- Registries in which newer schemas stand in the places of the older ones. -/
theorem of_forall₂ (h : List.Forall₂ (fun e e' => e.1 = e'.1 ∧ e.2.Keeps e'.2) newer.entries
    older.entries) : newer.Keeps older := by
  have found (name : String) : Option.Rel Schema.Keeps (newer.get? name) (older.get? name) := by
    unfold get?
    generalize newer.entries = entries at h ⊢
    generalize older.entries = entries' at h ⊢
    induction h with
    | nil => exact .none
    | @cons e e' rest rest' keeps _ ih =>
        by_cases hn : e.1 = name
        · rw [Fields.find?, if_pos hn, Fields.find?, if_pos (keeps.1 ▸ hn)]
          exact .some keeps.2
        · rw [Fields.find?, if_neg hn, Fields.find?, if_neg (keeps.1 ▸ hn)]
          exact ih
  constructor
  · intro name
    have hf := found name
    rw [contains, contains]
    generalize newer.get? name = a at hf
    generalize older.get? name = b at hf
    cases hf <;> rfl
  · intro name s s' hs hs'
    have hf := found name
    rw [hs, hs'] at hf
    cases hf with
    | some h => exact h

theorem registered (h : newer.Keeps older) {name : String} {s : Schema}
    (hs : newer.get? name = some s) : ∃ s', older.get? name = some s' ∧ s.Keeps s' := by
  have held : (older.get? name).isSome = true := by
    have same := h.names name
    simp only [contains, hs, Option.isSome_some] at same
    exact same.symm
  obtain ⟨s', hs'⟩ := Option.isSome_iff_exists.mp held
  exact ⟨s', hs', h.schemas hs hs'⟩

/-- Production lets the keys pass that only the newer schema declares. -/
theorem simulation (h : newer.Keeps older) (m : Mode) :
    Guard.Simulation newer older m .production Schema.Keeps where
  keys := fun _ _ => Schema.keysPass_iff.mpr nofun
  properties := Schema.Keeps.properties
  registered := h.registered

end Registry.Keeps

/-- In one registry, production asks for no more than either mode. -/
theorem Guard.Simulation.production (registry : Registry) (m : Mode) :
    Guard.Simulation registry registry m .production Eq where
  keys := fun _ _ => Schema.keysPass_iff.mpr nofun
  properties := by rintro s _ rfl p hp; exact ⟨p, hp, .refl (fun _ => rfl) p⟩
  registered := fun {_ s} hs => ⟨s, hs, rfl⟩

/-- **Production is forward compatible.**  Where the schemas of one registry keep those of an older
one, the older schema of a name accepts in production what the newer accepts in either mode.  And in
one registry production accepts what development does. -/
theorem forward_compatible :
    (∀ newer older : Registry, newer.Keeps older →
      ∀ name s, newer.get? name = some s → ∃ s', older.get? name = some s'
        ∧ ∀ mode v, s.accepts newer mode v = true → s'.accepts older .production v = true)
    ∧ ∀ (registry : Registry) (s : Schema) (v : Json),
      s.accepts registry .development v = true → s.accepts registry .production v = true := by
  refine ⟨fun newer older h name s hs => ?_, fun registry s v hv => ?_⟩
  · obtain ⟨s', hs', keeps⟩ := h.registered hs
    exact ⟨s', hs', fun mode v hv => (h.simulation mode).accepts v s s' keeps hv⟩
  · exact (Guard.Simulation.production registry .development).accepts v s s rfl hv

/-- The mark, with a colour. -/
def Schema.newerIcon : Schema :=
  .mk 7 "Icon" [.mk "colour" [.string] false, .mk "glyph" [.string] false]

/-- The folder, with an owner and the newer mark. -/
def Schema.newerFolder : Schema :=
  .mk 8 "Folder" [.mk "name" [.string] false, .mk "owner" [.string] false,
    .mk "icon" [.entity newerIcon, .absent] false, .mk "files" [.reference "File", .string] true]

/-- The file, with a size. -/
def Schema.newerFile : Schema :=
  .mk 9 "File" [.mk "link" [.reference "Folder", .null] false, .mk "size" [.integer] false]

def Registry.newerShelf : Registry :=
  ⟨[("Folder", Schema.newerFolder), ("File", Schema.newerFile)], by decide, by decide⟩

theorem Schema.newerFolder_keeps : newerFolder.Keeps folder := by
  have icon : newerIcon.Keeps icon := .of_subset (by simp [icon, newerIcon, properties])
  refine .mk fun p hp => ?_
  simp only [folder, properties, List.mem_cons, List.not_mem_nil, or_false] at hp
  rcases hp with rfl | rfl | rfl
  · exact .mk (.head _) rfl rfl (List.forall₂_same.mpr fun w _ => .same w)
  · exact .mk (.tail _ (.tail _ (.head _))) rfl rfl
      (.cons (.entity icon) (.cons (.same _) .nil))
  · exact .mk (.tail _ (.tail _ (.tail _ (.head _)))) rfl rfl
      (List.forall₂_same.mpr fun w _ => .same w)

theorem Registry.newerShelf_keeps : newerShelf.Keeps shelf :=
  .of_forall₂ (.cons ⟨rfl, Schema.newerFolder_keeps⟩
    (.cons ⟨rfl, .of_subset (by simp [Schema.file, Schema.newerFile, Schema.properties])⟩ .nil))

/-- A folder as the newer schemas have it: with an owner, a coloured mark, and a sized link. -/
def Entity.newerFolder : Entity :=
  ⟨Schema.newerFolder,
    [("name", .str "a"), ("owner", .str "o"),
      ("icon", .obj [("colour", .str "red"), ("glyph", .str "*")]),
      ("files", .arr [.obj [("size", .zero),
        ("link", .obj [("name", .str "b"), ("owner", .str "o"), ("files", .arr [])])]])],
    .development⟩

/-- Development refuses it for the older schemas, and production does not. -/
theorem forward_compatible_shelf :
    Registry.newerShelf.Keeps Registry.shelf
      ∧ Registry.newerShelf.get? "Folder" = some Schema.newerFolder
      ∧ Schema.newerFolder.accepts .newerShelf .development Entity.newerFolder.dto = true
      ∧ Schema.folder.accepts .shelf .development Entity.newerFolder.dto = false
      ∧ Schema.folder.accepts .shelf .production Entity.newerFolder.dto = true := by
  have newer : Schema.newerFolder.accepts .newerShelf .development Entity.newerFolder.dto = true := by
    decide
  obtain ⟨s', hs', accepts⟩ := forward_compatible.1 .newerShelf .shelf Registry.newerShelf_keeps
    "Folder" Schema.newerFolder rfl
  obtain rfl : Schema.folder = s' := Option.some.inj hs'
  exact ⟨Registry.newerShelf_keeps, rfl, newer, by decide, accepts _ _ newer⟩

end Dossier
