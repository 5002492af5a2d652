import Dossier.Proofs.Number.Rounding
import Dossier.Proofs.Schema.Grammar

/-!
# Enumeration — integers among the members

An enumeration takes a number for a member when their nearest doubles are the same, so that `1.0` is
the member `1`.  For integers this is equality as long as doubles tell them apart.

* `Variant.fits_integer_iff`: an enumeration of integers takes its members, and beside these only
  neighbours of members, at most 2048 away and of 54 bits at least.
* `enumeration_integer`: so it takes exactly its members where no neighbour can be meant.
* `enumeration_next_integer`: the first integer of 54 bits has such a neighbour.
-/

namespace Dossier

/-- An integer is taken for a member that it is, or for a neighbour that has its nearest double. -/
theorem Variant.fits_integer_iff {registry : Registry} {mode : Mode} {name : String}
    {members : List Json} (integers : ∀ u ∈ members, ∃ m hm, u = .num (.int m hm)) {n : Int}
    {hn : -0x8000000000000000 ≤ n ∧ n < 0x10000000000000000} :
    (Variant.enumeration name members).fits registry mode (.num (.int n hn)) = true ↔
      .num (.int n hn) ∈ members
        ∨ ∃ m hm, .num (.int m hm) ∈ members ∧ (Number.int m hm).SameDouble (.int n hn) ∧ m ≠ n
          ∧ 0x20000000000000 ≤ m.natAbs ∧ 0x20000000000000 ≤ n.natAbs
          ∧ (m - n).natAbs ≤ 2048 := by
  rw [fits_enumeration, hasMember_iff]
  constructor
  · rintro ⟨u, hu, same⟩
    obtain ⟨m, hm, rfl⟩ := integers u hu
    have agree : (Number.int m hm).agrees (.int n hn) = true := same
    by_cases h : m = n
    · subst h
      exact .inl hu
    · refine .inr ⟨m, hm, hu, same, h, ?_, ?_, Number.natAbs_sub_le_of_agrees agree⟩
      · rw [Number.agrees_comm] at agree
        exact not_lt.mp fun small => h (Number.eq_of_agrees small agree).symm
      · exact not_lt.mp fun small => h (Number.eq_of_agrees small agree)
  · rintro (member | ⟨m, hm, hu, same, -⟩)
    · exact ⟨_, member, Number.agrees_of_value_eq rfl⟩
    · exact ⟨_, hu, same⟩

/-- **An integer is taken for a member exactly when it is one, as long as doubles tell it from the
others.**  They do when it has at most 53 bits, or when each other member has at most 53 bits or is more
than 2048 away.  Else a neighbour with the same nearest double is taken for the member. -/
theorem enumeration_integer (registry : Registry) (mode : Mode) (name : String)
    {members : List Json} (integers : ∀ u ∈ members, ∃ m hm, u = .num (.int m hm)) (n : Int)
    (hn : -0x8000000000000000 ≤ n ∧ n < 0x10000000000000000) :
    ((Variant.enumeration name members).fits registry mode (.num (.int n hn)) = true ↔
      .num (.int n hn) ∈ members
        ∨ ∃ m hm, .num (.int m hm) ∈ members ∧ (Number.int m hm).SameDouble (.int n hn) ∧ m ≠ n
          ∧ 0x20000000000000 ≤ m.natAbs ∧ 0x20000000000000 ≤ n.natAbs ∧ (m - n).natAbs ≤ 2048)
    ∧ ((n.natAbs < 0x20000000000000 ∨ ∀ m hm, .num (.int m hm) ∈ members →
          m = n ∨ m.natAbs < 0x20000000000000 ∨ 2048 < (m - n).natAbs) →
        ((Variant.enumeration name members).fits registry mode (.num (.int n hn)) = true ↔
          .num (.int n hn) ∈ members)) := by
  refine ⟨Variant.fits_integer_iff integers, fun apart =>
    (Variant.fits_integer_iff integers).trans (or_iff_left ?_)⟩
  rintro ⟨m, hm, hu, -, other, largem, largen, near⟩
  rcases apart with small | apart
  · exact absurd largen (not_le.mpr small)
  · rcases apart m hm hu with h | small | far
    · exact other h
    · exact absurd largem (not_le.mpr small)
    · exact absurd near (not_le.mpr far)

/-- Levels at the ends of the range, and the largest integer of 53 bits. -/
def Json.levels : List Json :=
  [.num (.int (-0x8000000000000000) (by decide)), .num (.int 0x1fffffffffffff (by decide)),
    .num (.int 0xffffffffffffffff (by decide))]

/-- The integer of 53 bits is a level and the one before it is none; at the upper end an integer far
enough from the level there is none either. -/
theorem enumeration_integer_levels :
    (∀ u ∈ Json.levels, ∃ m hm, u = .num (.int m hm))
    ∧ (Variant.enumeration "Level" Json.levels).fits .empty .development
        (.num (.int 0x1fffffffffffff (by decide))) = true
    ∧ (Variant.enumeration "Level" Json.levels).fits .empty .development
        (.num (.int 0x1ffffffffffffe (by decide))) = false
    ∧ (Variant.enumeration "Level" Json.levels).fits .empty .development
        (.num (.int 0xfffffffffffff000 (by decide))) = false := by
  have integers : ∀ u ∈ Json.levels, ∃ m hm, u = .num (.int m hm) := by
    simp only [Json.levels, List.forall_mem_cons]
    exact ⟨⟨_, _, rfl⟩, ⟨_, _, rfl⟩, ⟨_, _, rfl⟩, fun _ h => absurd h List.not_mem_nil⟩
  have taken := enumeration_integer .empty .development "Level" integers
  refine ⟨integers, ?_, ?_, ?_⟩
  · exact ((taken 0x1fffffffffffff (by decide)).2 (.inl (by decide))).mpr (.tail _ (.head _))
  · refine Bool.eq_false_iff.mpr fun h => ?_
    have := ((taken 0x1ffffffffffffe (by decide)).2 (.inl (by decide))).mp h
    simp [Json.levels] at this
  · refine Bool.eq_false_iff.mpr fun h => ?_
    have := ((taken 0xfffffffffffff000 (by decide)).2 (.inr fun m hm hu => ?_)).mp h
    · simp [Json.levels] at this
    · simp only [Json.levels, List.mem_cons, List.not_mem_nil, or_false, Json.num.injEq,
        Number.int.injEq] at hu
      rcases hu with rfl | rfl | rfl
      · exact .inr (.inr (by decide))
      · exact .inr (.inl (by decide))
      · exact .inr (.inr (by decide))

/-- **The neighbour of a member is taken for it.**  The enumeration of the one member `2 ^ 53` takes
`2 ^ 53 + 1`. -/
theorem enumeration_next_integer :
    (Variant.enumeration "Level" [.num (.int 0x20000000000000 (by decide))]).fits .empty .development
        (.num (.int 0x20000000000001 (by decide))) = true
      ∧ Json.num (.int 0x20000000000001 (by decide))
        ∉ [Json.num (.int 0x20000000000000 (by decide))] := by
  exact ⟨by decide +kernel, by simp⟩

end Dossier
