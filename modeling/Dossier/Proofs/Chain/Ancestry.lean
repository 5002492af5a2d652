import Dossier.Proofs.Chain.Gather
import Dossier.Proofs.Chain.Resolve
import Dossier.Proofs.Chain.Run

/-!
# Chain — records and the bases of their references

Each record of a chain stands at a base: a pool member at the base of the options, whoever refers to
it, and a document at its own URL.  `Resolver.Leads` is one step from a record at its base to the
next one at its own, and `Resolver.Ancestry` a walk of such steps that ends at a record that refers
to nothing or to a built-in.  The walk is a matter of the pool and the documents alone; nothing
remembered and no chain under way comes into it.

* `Resolver.Ancestry.unique`: from a record at a base there is one walk at most.
* `Resolver.Comes`: what a record at a base comes to, the records of its walk merged from the last
  one back.
* `Resolver.mergedAll_eq_mergeAll`: in a regular layout they are merged and nothing more.
-/

namespace Dossier

variable {U : Type} [Urls U]

namespace Resolver

/-! ### Walks -/

/-- The document at the URL is the record whenever it is asked for, and the schema accepts it. -/
def Reads (r : Resolver U) (url : U) (record : Fields Json) : Prop :=
  ∃ remote, r.remote = some remote ∧ (∀ asked, remote.fetch asked url = .ok (.obj record))
    ∧ remote.schema.acceptsFields remote.registry r.options.mode record = true

/-- The reference of a record at a base leads to another record at another base. -/
inductive Leads (r : Resolver U) (pool : Pool) :
    Option U → Fields Json → Option U → Fields Json → Prop where
  /-- A pool member is at the base of the options, whoever refers to it. -/
  | member {base : Option U} {record inner : Fields Json} {reference : String}
      (refers : r.options.layout.extendOf? record = some reference)
      (found : pool.get? reference = some inner) :
      Leads r pool base record r.options.baseUrl inner
  /-- A document is found from the base of the reference, and is at its own URL. -/
  | document {base : Option U} {record inner : Fields Json} {reference : String} {url : U}
      (refers : r.options.layout.extendOf? record = some reference)
      (outside : pool.get? reference = none) (unlisted : r.options.isBuiltIn reference = false)
      (looks : Reference.isRemote reference = true)
      (located : Urls.join base reference = .ok url) (reads : r.Reads url inner) :
      Leads r pool base record (some url) inner

/-- The references lead from a record at a base to a root.  The children are the other records, the
farthest from the first one first. -/
inductive Ancestry (r : Resolver U) (pool : Pool) :
    Option U → Fields Json → Fields Json → List (Fields Json) → Prop where
  /-- The record refers to nothing. -/
  | plain {base : Option U} {record : Fields Json}
      (refers : r.options.layout.extendOf? record = none) : Ancestry r pool base record record []
  /-- It refers to a built-in that is not a member, and is reduced to it. -/
  | builtIn {base : Option U} {record : Fields Json} {reference : String}
      (refers : r.options.layout.extendOf? record = some reference)
      (outside : pool.get? reference = none) (listed : r.options.isBuiltIn reference = true) :
      Ancestry r pool base record (r.options.layout.terminal reference record) []
  /-- It refers to a record with an ancestry. -/
  | child {base innerBase : Option U} {record inner root : Fields Json}
      {children : List (Fields Json)} (leads : r.Leads pool base record innerBase inner)
      (ancestry : Ancestry r pool innerBase inner root children) :
      Ancestry r pool base record root (children ++ [record])

variable {r : Resolver U} {pool : Pool} {base innerBase : Option U}
  {record inner root result : Fields Json} {children : List (Fields Json)}

omit [Urls U] in
theorem Reads.unique {url : U} {other : Fields Json} (h : r.Reads url record)
    (h' : r.Reads url other) : record = other := by
  obtain ⟨remote, hr, answer, -⟩ := h
  obtain ⟨remote', hr', answer', -⟩ := h'
  cases hr.symm.trans hr'
  cases (answer []).symm.trans (answer' [])
  rfl

theorem Leads.unique {otherBase : Option U} {other : Fields Json}
    (h : r.Leads pool base record innerBase inner) (h' : r.Leads pool base record otherBase other) :
    innerBase = otherBase ∧ inner = other := by
  cases h with
  | member refers found =>
      cases h' with
      | member refers' found' =>
          cases refers.symm.trans refers'
          cases found.symm.trans found'
          exact ⟨rfl, rfl⟩
      | document refers' outside' =>
          cases refers.symm.trans refers'
          cases found.symm.trans outside'
  | document refers outside unlisted looks located reads =>
      cases h' with
      | member refers' found' =>
          cases refers.symm.trans refers'
          cases outside.symm.trans found'
      | document refers' outside' unlisted' looks' located' reads' =>
          cases refers.symm.trans refers'
          cases located.symm.trans located'
          exact ⟨rfl, reads.unique reads'⟩

theorem Leads.refers (h : r.Leads pool base record innerBase inner) :
    ∃ reference, r.options.layout.extendOf? record = some reference
      ∧ (pool.get? reference = none → r.options.isBuiltIn reference = false) := by
  cases h with
  | member refers found => exact ⟨_, refers, fun outside => nomatch outside.symm.trans found⟩
  | document refers outside unlisted => exact ⟨_, refers, fun _ => unlisted⟩

/-- **There is one walk at most** from a record at a base. -/
theorem Ancestry.unique {other : Fields Json} {others : List (Fields Json)}
    (h : r.Ancestry pool base record root children)
    (h' : r.Ancestry pool base record other others) : root = other ∧ children = others := by
  induction h generalizing other others with
  | plain refers =>
      cases h' with
      | plain => exact ⟨rfl, rfl⟩
      | builtIn refers' => cases refers.symm.trans refers'
      | child leads =>
          obtain ⟨reference, refers', -⟩ := leads.refers
          cases refers.symm.trans refers'
  | builtIn refers outside listed =>
      cases h' with
      | plain refers' => cases refers.symm.trans refers'
      | builtIn refers' =>
          cases refers.symm.trans refers'
          exact ⟨rfl, rfl⟩
      | child leads =>
          obtain ⟨reference, refers', unlisted⟩ := leads.refers
          cases refers.symm.trans refers'
          cases listed.symm.trans (unlisted outside)
  | child leads ancestry ih =>
      cases h' with
      | plain refers =>
          obtain ⟨reference, refers', -⟩ := leads.refers
          cases refers.symm.trans refers'
      | builtIn refers outside listed =>
          obtain ⟨reference, refers', unlisted⟩ := leads.refers
          cases refers.symm.trans refers'
          cases listed.symm.trans (unlisted outside)
      | child leads' ancestry' =>
          obtain ⟨rfl, rfl⟩ := leads.unique leads'
          obtain ⟨rfl, rfl⟩ := ih ancestry'
          exact ⟨rfl, rfl⟩

/-! ### What a record comes to -/

/-- The children merged onto the root one after the other, as a resolution does it. -/
def mergedAll (r : Resolver U) (root : Fields Json) (children : List (Fields Json)) : Fields Json :=
  children.foldl r.options.layout.merged root

/-- The records of the walk from a record at a base, merged from the last one back. -/
def Comes (r : Resolver U) (pool : Pool) (base : Option U) (record result : Fields Json) : Prop :=
  ∃ root children, r.Ancestry pool base record root children ∧ result = r.mergedAll root children

theorem Comes.unique {other : Fields Json} (h : r.Comes pool base record result)
    (h' : r.Comes pool base record other) : result = other := by
  obtain ⟨root, children, ancestry, rfl⟩ := h
  obtain ⟨root', children', ancestry', rfl⟩ := h'
  obtain ⟨rfl, rfl⟩ := ancestry.unique ancestry'
  rfl

omit [Urls U] in
theorem mergedAll_concat (r : Resolver U) (root : Fields Json) (children : List (Fields Json))
    (child : Fields Json) :
    r.mergedAll root (children ++ [child])
      = r.options.layout.merged (r.mergedAll root children) child :=
  List.foldl_append ..

theorem Comes.child {ancestor : Fields Json} (leads : r.Leads pool base record innerBase inner)
    (h : r.Comes pool innerBase inner ancestor) :
    r.Comes pool base record (r.options.layout.merged ancestor record) := by
  obtain ⟨root, children, ancestry, rfl⟩ := h
  exact ⟨root, _, .child leads ancestry, (r.mergedAll_concat root children record).symm⟩

omit [Urls U] in
/-- In a regular layout the records are merged and nothing more. -/
theorem mergedAll_eq_mergeAll (hl : r.options.layout.Regular)
    (h : r.options.layout.extendOf? root = none) (children : List (Fields Json)) :
    r.mergedAll root children = r.options.layout.mergeAll root children := by
  induction children generalizing root with
  | nil => rfl
  | cons child rest ih =>
      have first := Layout.merged_eq_mergeOnto hl h child
      have next : r.options.layout.extendOf? (r.options.layout.mergeOnto root child) = none :=
        (Layout.extendOf?_mergeOnto hl).trans h
      calc r.mergedAll root (child :: rest)
          = r.mergedAll (r.options.layout.mergeOnto root child) rest := by rw [← first]; rfl
        _ = r.options.layout.mergeAll root (child :: rest) := ih next

theorem Ancestry.extendOf?_root (h : r.Ancestry pool base record root children)
    (hl : r.options.layout.Regular) : r.options.layout.extendOf? root = none := by
  induction h with
  | plain refers => exact refers
  | builtIn => exact Layout.extendOf?_terminal hl _ _
  | child leads ancestry ih => exact ih

end Resolver

end Dossier
