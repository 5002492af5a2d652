import Dossier.Proofs.Chain.Carry
import Dossier.Proofs.Chain.Collection
import Dossier.Proofs.Chain.Walk

/-!
# Chain — members that nothing refers to

A reference is looked up among the members of the pool before it is taken for a built-in or for a
remote reference.  So a member under a new name can take a reference over, but only one that was a
built-in or looked remote, or that led nowhere.

`Options.Enlarges` is a larger pool whose new names are neither: it holds the records of the smaller
one, and others under plain names of their own.

* `Options.enlarges_insert`: a record put under such a name enlarges a pool.
* `Options.Enlarges.carries`: runs carry over to a larger pool, failures at unknown names apart.
* `enlarging_keeps`: so a call that does not fail for an unknown name comes out the same in the
  larger pool, with the same documents asked for in the same order.
-/

namespace Dossier

variable {U : Type}

/-- The failure at a name that the pool does not have. -/
def Unknown : ResolveError → Prop
  | .missing .. | .unknownRecord _ => True
  | _ => False

/-! ### Larger pools -/

/-- The second pool holds the records of the first, and others under new names that neither are
built-ins nor look remote. -/
structure Options.Enlarges (o : Options U) (p q : Pool) : Prop where
  kept {name : String} {record : Fields Json} :
    p.get? name = some record → q.get? name = some record
  unlisted {name : String} :
    p.get? name = none → q.contains name = true → o.isBuiltIn name = false
  plain {name : String} :
    p.get? name = none → q.contains name = true → Reference.isRemote name = false

namespace Options

variable {o : Options U} {p q : Pool}

/-- One more record, under a plain name of its own. -/
theorem enlarges_insert {name : String} (new : p.get? name = none)
    (unlisted : o.isBuiltIn name = false) (plain : Reference.isRemote name = false)
    (record : Fields Json) : o.Enlarges p (p.insert name record) := by
  have named {other : String} (outside : p.get? other = none)
      (inside : (p.insert name record).contains other = true) : name = other := by
    by_contra hne
    obtain ⟨found, hf⟩ := Option.isSome_iff_exists.mp inside
    have same : (p.insert name record).get? other = some found := hf
    rw [Pool.get?_insert, if_neg hne, outside] at same
    cases same
  refine ⟨fun {other found} hf => ?_, fun outside inside => named outside inside ▸ unlisted,
    fun outside inside => named outside inside ▸ plain⟩
  have hne : name ≠ other := by
    rintro rfl
    cases new.symm.trans hf
  rw [Pool.get?_insert, if_neg hne, hf]

/-- A built-in that is no member of a pool is none of the larger pool. -/
theorem Enlarges.outside_of_listed (h : o.Enlarges p q) {name : String}
    (outside : p.get? name = none) (listed : o.isBuiltIn name = true) : q.get? name = none :=
  Pool.contains_eq_false_iff.mp <| Bool.eq_false_iff.mpr fun inside =>
    nomatch listed.symm.trans (h.unlisted outside inside)

/-- Nor is a reference that looks remote. -/
theorem Enlarges.outside_of_remote (h : o.Enlarges p q) {name : String}
    (outside : p.get? name = none) (looks : Reference.isRemote name = true) : q.get? name = none :=
  Pool.contains_eq_false_iff.mp <| Bool.eq_false_iff.mpr fun inside =>
    nomatch looks.symm.trans (h.plain outside inside)

end Options

variable [Urls U]

namespace Resolver

variable {r : Resolver U} {p q : Pool} {base : Option U} {reference requester : String}
  {pass : Pass U}

omit [Urls U] in
theorem Foreign.enlarged (h : r.options.Enlarges p q) (foreign : r.Foreign p pass reference)
    (looks : Reference.isRemote reference = true) : r.Foreign q pass reference :=
  ⟨foreign.new, h.outside_of_remote foreign.outside looks, foreign.unlisted⟩

/-- A reference leads where it led, unless it led nowhere. -/
theorem Aims.enlarged (h : r.options.Enlarges p q) {aim : Except ResolveError (Target U)}
    (aims : r.Aims p pass base reference requester aim) (free : FreeOf Unknown aim) :
    r.Aims q pass base reference requester aim := by
  cases aims with
  | remembered known => exact .remembered known
  | member new found => exact .member new (h.kept found)
  | builtIn new outside listed => exact .builtIn new (h.outside_of_listed outside listed) listed
  | missing => exact absurd trivial (FreeOf.error_iff.mp free)
  | unsupported foreign looks alone => exact .unsupported (foreign.enlarged h looks) looks alone
  | invalid foreign looks reaches located =>
      exact .invalid (foreign.enlarged h looks) looks reaches located
  | fetched foreign looks reaches located known =>
      exact .fetched (foreign.enlarged h looks) looks reaches located known
  | document foreign looks reaches located new =>
      exact .document (foreign.enlarged h looks) looks reaches located new

end Resolver

/-- **A run that meets no unknown name is the same run in the larger pool.** -/
theorem Options.Enlarges.carries {r : Resolver U} {p q : Pool} (h : r.options.Enlarges p q) :
    Resolver.Carries Unknown r p r q where
  options := rfl
  depth := .inl rfl
  members name := by
    cases found : p.get? name with
    | none => exact .inr ⟨rfl, trivial⟩
    | some record => exact .inl (h.kept found)
  aims aims free := aims.enlarged h free
  opened _ := rfl

/-- **Members that nothing refers to make no difference.**  In a larger pool whose new names neither
are built-ins nor look remote, a call comes out as in the smaller one, down to the documents asked
for and their order, unless it fails there for a name that the pool does not have.  That is so of
every call that succeeds and of every one that ends in a cycle. -/
theorem enlarging_keeps (r : Resolver U) {p q : Pool} (h : r.options.Enlarges p q) :
    (∀ v, FreeOf Unknown (r.resolve p v).1 → r.resolve q v = r.resolve p v)
    ∧ ∀ name, FreeOf Unknown (r.resolveNamed p name).1 →
      r.resolveNamed q name = r.resolveNamed p name := by
  refine ⟨fun v free => ?_, fun name free => ?_⟩
  · exact h.carries.resolve_eq free
  · exact h.carries.resolveNamed_eq free

/-- A page and its documents stay as they are when a page is added whose document is not there, and
so does a circle when a record is added that leads into it. -/
theorem enlarging_keeps_gallery :
    let o : Options Url := .standard
    let grown := circle.insert "D" [("name", .str "D"), ("extend", .str "B")]
    Gallery.resolver.options.Enlarges Gallery.pool Gallery.tornPool
      ∧ FreeOf Unknown (Gallery.resolver.resolveNamed Gallery.pool "Hero").1
      ∧ Gallery.resolver.resolveNamed Gallery.tornPool "Hero"
        = Gallery.resolver.resolveNamed Gallery.pool "Hero"
      ∧ o.Enlarges circle grown
      ∧ (o.resolver.resolveNamed grown "A").1
        = .error (.cycle ["A", "B", "C", "A"]) := by
  intro o grown
  have torn : Gallery.resolver.options.Enlarges Gallery.pool Gallery.tornPool :=
    Options.enlarges_insert rfl rfl (by decide +kernel) _
  have round : o.Enlarges circle grown :=
    Options.enlarges_insert rfl rfl (by decide +kernel) _
  have hero : FreeOf Unknown (Gallery.resolver.resolveNamed Gallery.pool "Hero").1 :=
    .of_isOk (by decide +kernel)
  have cycle : (o.resolver.resolveNamed circle "A").1
      = .error (.cycle ["A", "B", "C", "A"]) := rfl
  refine ⟨torn, hero, (enlarging_keeps Gallery.resolver torn).2 "Hero" hero, round, ?_⟩
  rw [(enlarging_keeps o.resolver round).2 "A" (cycle ▸ FreeOf.error_iff.mpr id)]
  exact cycle

/-- A member under the name of a built-in takes its place. -/
example :
    let o : Options Url := Options.standard.withBuiltIns ["div"]
    let box := Pool.empty.insert "Box" [("name", .str "Box"), ("extend", .str "div")]
    (o.resolver.resolveNamed box "Box").1 = .ok (.obj [("name", .str "div")])
      ∧ (o.resolver.resolveNamed (box.insert "div" [("name", .str "Block")]) "Box").1
        = .ok (.obj [("name", .str "Block")]) := by
  cbv

end Dossier
