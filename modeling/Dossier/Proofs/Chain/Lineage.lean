import Dossier.Proofs.Chain.Filing
import Dossier.Proofs.Chain.Gather
import Dossier.Proofs.Chain.Resolve
import Dossier.Url.Parse

/-!
# Chain — a member with its ancestors

`Lineage o pool name ancestors root children` says that the references lead from a member through
its ancestors, the nearest first, to one that refers to nothing or to a built-in.  The root is the
record found there, reduced in the case of a built-in, and the children are the others, the farthest
first.

* `Pool.wellFormed_ofRecords`: a pool of well-formed records is well-formed.
* `Lineage.resolveFrom_eq`: by induction on the lineage, where no ancestor is under way and levels
  for all of them are left, a resolution merges the children onto the root.
* `resolveNamed_lineage`: so resolving a member gathers its lineage.
-/

namespace Dossier

variable {U : Type} [Urls U]

/-! ### Well-formed pools -/

namespace Pool

/-- No object in the pool names a key twice, as no object that is read does. -/
def WellFormed (pool : Pool) : Prop :=
  ∀ name record, pool.get? name = some record → Json.WellFormed (.obj record)

variable {pool : Pool}

/-- A pool of well-formed records is well-formed. -/
theorem wellFormed_ofRecords {l : Layout} {records : List Json}
    (h : ∀ v ∈ records, Json.WellFormed v) (hp : ofRecords l records = .ok pool) :
    pool.WellFormed :=
  fun _ _ found => h _ ((filed_of_ofRecords hp).mem_of_get? found)

end Pool

/-! ### Lineages -/

/-- The references lead from a member through its ancestors to a root. -/
inductive Lineage (o : Options U) (pool : Pool) :
    String → List String → Fields Json → List (Fields Json) → Prop where
  /-- The member refers to nothing. -/
  | plain {name : String} {record : Fields Json} (found : pool.get? name = some record)
      (refers : o.layout.extendOf? record = none) : Lineage o pool name [] record []
  /-- It refers to a built-in that is not a member, and is reduced to it. -/
  | builtIn {name reference : String} {record : Fields Json}
      (found : pool.get? name = some record) (refers : o.layout.extendOf? record = some reference)
      (outside : pool.contains reference = false) (known : o.isBuiltIn reference = true) :
      Lineage o pool name [] (o.layout.terminal reference record) []
  /-- It refers to a member with a lineage. -/
  | child {name parent : String} {record : Fields Json} {ancestors : List String}
      {root : Fields Json} {children : List (Fields Json)}
      (found : pool.get? name = some record) (refers : o.layout.extendOf? record = some parent)
      (lineage : Lineage o pool parent ancestors root children) :
      Lineage o pool name (parent :: ancestors) root (children ++ [record])

namespace Lineage

variable {o : Options U} {pool : Pool} {name : String} {ancestors : List String}
  {root : Fields Json} {children : List (Fields Json)}

omit [Urls U] in
theorem exists_record (h : Lineage o pool name ancestors root children) :
    ∃ record, pool.get? name = some record := by
  cases h with
  | plain found | builtIn found | child found => exact ⟨_, found⟩

omit [Urls U] in
theorem wellFormed (h : Lineage o pool name ancestors root children) (hp : pool.WellFormed) :
    ∀ r ∈ root :: children, Json.WellFormed (.obj r) := by
  induction h with
  | plain found refers =>
      intro r hr
      obtain rfl := List.mem_singleton.mp hr
      exact hp _ _ found
  | builtIn found refers outside known =>
      intro r hr
      obtain rfl := List.mem_singleton.mp hr
      exact Layout.wellFormed_terminal _ (hp _ _ found)
  | child found refers lineage ih =>
      intro r hr
      rw [← List.cons_append] at hr
      rcases List.mem_append.mp hr with hr | hr
      · exact ih r hr
      · obtain rfl := List.mem_singleton.mp hr
        exact hp _ _ found

/-- Where no ancestor is under way and levels for all of them are left, a resolution merges the
children onto the root. -/
theorem resolveFrom_eq (h : Lineage o pool name ancestors root children) (hl : o.layout.Regular)
    (hd : ancestors.Nodup) {levels : Nat} (hlev : ancestors.length ≤ levels)
    {chain : List (Place U)} (hnew : ∀ a ∈ ancestors, a ∉ chain.map Place.key) (base : Option U)
    {pass : Pass U} (hn : ∀ reference, Fields.find? pass.resolved reference = none)
    {record : Fields Json} (hf : pool.get? name = some record) :
    (o.resolver.resolveFrom pool levels chain base record pass).1
      = .ok (o.layout.mergeAll root children) := by
  induction h generalizing levels chain base pass record with
  | plain found refers =>
      obtain rfl := Option.some.inj (found.symm.trans hf)
      rw [Resolver.resolveFrom_of_plain (r := o.resolver) refers]
      rfl
  | builtIn found refers outside known =>
      obtain rfl := Option.some.inj (found.symm.trans hf)
      have hm := Pool.contains_eq_false_iff.mp outside
      rw [Resolver.resolveFrom_of_builtIn (r := o.resolver) refers (hn _) hm known]
      rfl
  | @child name parent own ancestors root children found refers lineage ih =>
      obtain rfl : own = record := Option.some.inj (found.symm.trans hf)
      obtain ⟨inner, hm⟩ := lineage.exists_record
      obtain ⟨hp, hd⟩ := List.nodup_cons.mp hd
      obtain ⟨fewer, rfl⟩ : ∃ fewer, levels = fewer + 1 :=
        Nat.exists_eq_add_of_le' (Nat.le_trans (Nat.succ_pos _) hlev)
      have hc := hnew parent (List.mem_cons_self ..)
      -- the parent is under way from here on, and is none of its own ancestors
      let further := chain ++ [Place.member parent inner]
      have hlater : ∀ a ∈ ancestors, a ∉ further.map Place.key := by
        intro a ha hin
        rw [List.map_append, List.mem_append] at hin
        rcases hin with hin | hin
        · exact hnew a (List.mem_cons_of_mem _ ha) hin
        · obtain rfl := List.mem_singleton.mp hin
          exact hp ha
      let entered := pass.note (.entered further)
      have hentered : ∀ reference, Fields.find? entered.resolved reference = none := hn
      have hancestor := ih hd (Nat.le_of_succ_le_succ hlev) hlater o.baseUrl hentered hm
      -- a resolved ancestor refers to nothing, so merging onto it is not resolved once more
      have hends := Resolver.extendOf?_of_resolveFrom (r := o.resolver) hl hancestor
      calc (o.resolver.resolveFrom pool (fewer + 1) chain base own pass).1
          = (o.resolver.resolveFrom pool fewer further o.baseUrl inner entered).1.map
              fun ancestor => o.layout.merged ancestor own :=
            Resolver.resolveFrom_of_member refers (hn parent) hm hc
        _ = .ok (o.layout.merged (o.layout.mergeAll root children) own) := by rw [hancestor]; rfl
        _ = .ok (o.layout.mergeOnto (o.layout.mergeAll root children) own) :=
            congrArg _ (Layout.merged_eq_mergeOnto hl hends own)
        _ = .ok (o.layout.mergeAll root (children ++ [own])) :=
            congrArg _ (o.layout.mergeAll_concat root children own).symm

omit [Urls U] in
theorem length_children (h : Lineage o pool name ancestors root children) :
    children.length = ancestors.length := by
  induction h with
  | plain | builtIn => rfl
  | child found refers lineage ih => simp [ih]

end Lineage

/-- **Resolving a member gathers its lineage**: as long as the members are distinct and no more than
the depth allows, the result is the root with nothing to merge, and otherwise has in each field what
the records have there together.  A root that is reduced to a built-in has its name, and its own
content and keyed fields, alone. -/
theorem resolveNamed_lineage {o : Options U} {pool : Pool} {name : String} {ancestors : List String}
    {root : Fields Json} {children : List (Fields Json)} (hl : o.layout.Regular)
    (hp : pool.WellFormed) (h : Lineage o pool name ancestors root children)
    (hd : (name :: ancestors).Nodup) (hdepth : ancestors.length + 1 ≤ o.maxDepth) :
    ∃ result, (o.resolver.resolveNamed pool name).1 = .ok (.obj result)
      ∧ Json.WellFormed (.obj result)
      ∧ (children = [] → result = root)
      ∧ (children ≠ [] → Fields.find? result o.layout.content
          = if (root :: children).any fun r => Fields.contains r o.layout.content then
              some (.arr ((root :: children).flatMap fun r =>
                contentItems (Fields.find? r o.layout.content)))
            else none)
      ∧ o.layout.Gathered root children result
      ∧ children.length = ancestors.length
      ∧ ∀ builtIn record field, Fields.find? (o.layout.terminal builtIn record) field
          = if field = o.layout.name then some (.str builtIn)
            else if field = o.layout.content ∨ field ∈ o.layout.keyed then Fields.find? record field
            else none := by
  obtain ⟨record, hf⟩ := h.exists_record
  obtain ⟨hnew, hd⟩ := List.nodup_cons.mp hd
  obtain ⟨hr, hc⟩ := List.forall_mem_cons.mp (h.wellFormed hp)
  refine ⟨o.layout.mergeAll root children, ?_, Layout.wellFormed_mergeAll hr hc, ?_,
    Layout.find?_mergeAll_content hl root hc, Layout.gathered_mergeAll hl root hc,
    h.length_children, fun builtIn record field => Layout.find?_terminal hl builtIn field⟩
  · cases hm : o.maxDepth with
    | zero => omega
    | succ levels =>
        have hstart : ∀ a ∈ ancestors, a ∉ [(.member name record : Place U)].map Place.key := by
          intro a ha hin
          obtain rfl := List.mem_singleton.mp hin
          exact hnew ha
        let entered : Pass U := Pass.start.note (.entered [.member name record])
        have hentered : ∀ reference, Fields.find? entered.resolved reference = none := fun _ => rfl
        have hresolved := h.resolveFrom_eq hl hd (Nat.le_of_succ_le_succ (hm ▸ hdepth)) hstart
          o.baseUrl hentered hf
        simp only [Resolver.resolveNamed_def, hf, Resolver.resolveMember_def, Options.resolver, hm]
        exact congrArg (Except.map Json.obj) hresolved
  · rintro rfl
    rfl

/-- The standard options, and the name `div` for the end of a chain. -/
def Options.markup : Options Url := { Options.standard with builtIns := ["div"] }

/-- A box that refers to a built-in, and a red box that refers to it. -/
def boxes : Pool where
  records :=
    [("Box", [("name", .str "Box"), ("extend", .str "div"), ("content", .arr [.str "inner"]),
        ("width", .str "wide")]),
      ("RedBox", [("name", .str "RedBox"), ("extend", .str "Box"), ("content", .str "more"),
        ("style", .obj [("color", .str "red")])])]
  nodup := by simp [Fields.Nodup, Fields.keys]

theorem wellFormed_boxes : boxes.WellFormed := by
  intro name record h
  rcases List.mem_cons.mp (Fields.mem_of_find? h) with h | h
  · cases h
    simp [Json.WellFormed, Json.WellFormedFields, Json.WellFormedItems, Fields.Nodup, Fields.keys]
  · cases List.mem_singleton.mp h
    simp [Json.WellFormed, Json.WellFormedFields, Fields.Nodup, Fields.keys]

theorem resolveNamed_lineage_boxes :
    ∃ result, (Options.markup.resolver.resolveNamed boxes "RedBox").1 = .ok (.obj result)
      ∧ Fields.find? result "name" = some (.str "div")
      ∧ Fields.find? result "content" = some (.arr [.str "inner", .str "more"])
      ∧ Fields.find? result "width" = none
      ∧ cell? "style" "color" result = some (.str "red") := by
  have lineage : Lineage .markup boxes "RedBox" ["Box"] _ _ :=
    .child rfl rfl (.builtIn rfl rfl (by decide) (by decide))
  obtain ⟨result, hresult, -, -, hcontent, gathered, -, -⟩ :=
    resolveNamed_lineage Layout.standard_regular wellFormed_boxes lineage (by decide) (by decide)
  refine ⟨result, hresult, gathered.name, ?_, ?_, ?_⟩
  · exact hcontent (by decide)
  · exact gathered.other "width" (by decide) (by decide)
  · refine (gathered.keyed "style" (by decide) fun r hr v hv => ?_).2 "color"
    rcases List.mem_cons.mp hr with rfl | hr
    · cases hv
    · obtain rfl := List.mem_singleton.mp hr
      exact ⟨_, (Option.some.inj hv).symm⟩

end Dossier
