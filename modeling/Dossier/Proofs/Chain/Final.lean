import Dossier.Proofs.Chain.Collection
import Dossier.Proofs.Chain.Kept

/-!
# Chain — nothing is left to resolve

In a regular layout a resolved record refers to nothing, wherever its ancestors come from.  It is
then final: any resolver of the layout leaves it as it is, in any pool, and asks for nothing.

* `Layout.final_of_plain`: a record that refers to nothing is final.
* `Resolver.resolved_final`: the results of all calls are final.
-/

namespace Dossier

/-- A record in which no reference is left, and which resolving again leaves as it is. -/
structure Layout.Final (l : Layout) (v : Json) : Prop where
  /-- No text stands where a reference would. -/
  plain : ∃ record, v = .obj record ∧ ∀ text, Fields.find? record l.extend ≠ some (.str text)
  /-- Any resolver of the layout leaves it as it is, with any pool and any kind of URLs. -/
  again : ∀ (U : Type) [Urls U] (r : Resolver U) (pool : Pool), r.options.layout = l →
    (r.resolve pool v).1 = .ok v
  /-- And asks for no document. -/
  silent : ∀ (U : Type) [Urls U] (r : Resolver U) (pool : Pool), r.options.layout = l →
    (r.resolve pool v).2.requests = []

/-- A record that refers to nothing is final. -/
theorem Layout.final_of_plain {l : Layout} {record : Fields Json}
    (h : l.extendOf? record = none) : l.Final (.obj record) := by
  have resolved (U : Type) [Urls U] (r : Resolver U) (pool : Pool) (hr : r.options.layout = l) :
      r.resolve pool (.obj record) = (.ok (.obj record), .start) := by
    rw [Resolver.resolve_def]
    simp only [Resolver.resolveRecord_def, Resolver.resolveFrom_of_plain (r := r) (hr ▸ h)]
    rfl
  constructor
  · refine ⟨record, rfl, fun text ht => ?_⟩
    rw [extendOf?, ht] at h
    cases h
  · exact fun U _ r pool hr => congrArg Prod.fst (resolved U r pool hr)
  · exact fun U _ r pool hr => congrArg (Pass.requests ∘ Prod.snd) (resolved U r pool hr)

namespace Resolver

variable {U : Type} [Urls U]

/-- **No reference is left in a resolved record**, and resolving it once more leaves it as it is:
whichever call it comes from, whatever the documents were answered with, and whatever the resolver
and the pool it is then given to, as long as the layout is the same and regular. -/
theorem resolved_final (r : Resolver U) (pool : Pool) (hl : r.options.layout.Regular) :
    (∀ v result, (r.resolve pool v).1 = .ok result → r.options.layout.Final result)
    ∧ (∀ name result, (r.resolveNamed pool name).1 = .ok result → r.options.layout.Final result)
    ∧ ∀ results, (r.resolveCollection pool).1 = .ok results →
      ∀ result ∈ results, r.options.layout.Final result := by
  have up := upholds_plain hl pool
  have start := Pass.Keeps.start (U := U) pool fun record => r.options.layout.extendOf? record = none
  refine ⟨fun v result h => ?_, fun name result h => ?_, fun results h result hm => ?_⟩
  · obtain ⟨record, own, -, hown, rfl⟩ := exists_of_resolve h
    rw [resolveRecord_def] at hown
    exact Layout.final_of_plain (extendOf?_of_resolveFrom hl hown)
  · obtain ⟨record, own, -, hown, rfl⟩ := exists_of_resolveNamed h
    have ⟨_, plain⟩ := (call_resolveMember r pool name record .start).keeps up start
    exact Layout.final_of_plain (plain own hown)
  · have found : ∀ e ∈ pool.records, pool.contains e.1 = true :=
      fun e he => (Fields.contains_iff_mem ..).mpr (List.mem_map_of_mem he)
    have row := row_resolveCollection r pool
    obtain ⟨record, rfl, plain⟩ := row.keeps found up start h result hm
    exact Layout.final_of_plain plain

theorem resolved_final_hero :
    Gallery.resolver.options.layout.Regular
      ∧ (Gallery.resolver.resolveNamed Gallery.pool "Hero").1 = .ok (.obj [("name", .str "div"),
          ("content", .arr [.str "cell", .str "grid", .str "base", .str "panel", .str "hero"])])
      ∧ Layout.standard.Final (.obj [("name", .str "div"),
          ("content", .arr [.str "cell", .str "grid", .str "base", .str "panel", .str "hero"])]) := by
  have regular : Gallery.resolver.options.layout.Regular := Layout.standard_regular
  have hero :=
    Gallery.resolveNamed_eq "Hero" rfl ⟨_, _, Gallery.ancestry_hero, rfl⟩ (by decide +kernel)
  exact ⟨regular, hero, (resolved_final _ Gallery.pool regular).2.1 "Hero" _ hero⟩

end Resolver

end Dossier
