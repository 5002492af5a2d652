import Dossier.Proofs.Number.Value

/-!
# Number — how far rounding moves an integer

Neighbouring doubles stand ever further apart, so that from 54 bits on a double can be the nearest one
of several integers.

* `Double.signedUnits_error`: an integer of at most 64 bits is moved by at most 1024, half the distance
  between the largest neighbours in that range.
* `Double.two_pow_log2_le_units`: rounding never goes below the leading bit.
* `Number.natAbs_sub_le_of_agrees`: so integers that agree are at most 2048 apart.
* `Number.eq_of_agrees`: an integer of at most 53 bits agrees with itself only.
-/

namespace Dossier

/-- Rounding moves by half the denominator at most. -/
theorem roundHalfEven_error (num : Nat) {den : Nat} (h : 0 < den) :
    2 * num ≤ 2 * (roundHalfEven num den * den) + den
      ∧ 2 * (roundHalfEven num den * den) ≤ 2 * num + den := by
  have whole : num / den * den + num % den = num := Nat.div_add_mod' num den
  have rest : num % den < den := Nat.mod_lt num h
  simp only [roundHalfEven]
  split
  · rw [Nat.add_mul, Nat.one_mul]
    omega
  · omega

namespace Double

variable {x y : Double} {m n : Int}

/-- What an integer is rounded to, in units of the least positive double. -/
theorem units_of_ofInt? (h : ofInt? n = some x) :
    x.negative = decide (n < 0)
      ∧ x.units = roundHalfEven (n.natAbs * unitsPerOne)
          (2 ^ ((n.natAbs * unitsPerOne).log2 - 52)) * 2 ^ ((n.natAbs * unitsPerOne).log2 - 52) := by
  simp only [ofInt?, ofRatio?, Nat.div_one, Nat.one_mul, Nat.pow_eq] at h
  generalize (n.natAbs * unitsPerOne).log2 - 52 = e at h ⊢
  generalize roundHalfEven (n.natAbs * unitsPerOne) (2 ^ e) = significand at h ⊢
  by_cases carry : significand = 0x20000000000000
  · rw [if_pos carry, ofParts?] at h
    split at h
    · obtain rfl := Option.some.inj h
      refine ⟨rfl, ?_⟩
      rw [units, carry, Nat.pow_eq, pow_succ]
      ring
    · cases h
  · rw [if_neg carry, ofParts?] at h
    split at h
    · obtain rfl := Option.some.inj h
      exact ⟨rfl, by rw [units, Nat.pow_eq]⟩
    · cases h

theorem two_pow_add_places (k : Nat) : 2 ^ (k + 1074) = 2 ^ k * unitsPerOne := by
  unfold unitsPerOne
  generalize 1074 = e
  rw [Nat.pow_eq, pow_add]

theorem two_pow_le_mul_unitsPerOne {b k e : Nat} (hb : b = 2 ^ k) (h : e ≤ k + 1074) :
    2 ^ e ≤ b * unitsPerOne := by
  rw [hb, ← two_pow_add_places]
  exact Nat.pow_le_pow_right (by decide) h

theorem mul_unitsPerOne_le_two_pow {b k e : Nat} (hb : b = 2 ^ k) (h : k + 1074 ≤ e) :
    b * unitsPerOne ≤ 2 ^ e := by
  rw [hb, ← two_pow_add_places]
  exact Nat.pow_le_pow_right (by decide) h

theorem log2_mul_unitsPerOne {k : Nat} (h : k ≠ 0) : (k * unitsPerOne).log2 = k.log2 + 1074 := by
  rw [Nat.log2_eq_iff (Nat.mul_ne_zero h unitsPerOne_pos.ne'), Nat.add_right_comm,
    two_pow_add_places, two_pow_add_places]
  exact ⟨Nat.mul_le_mul_right _ (Nat.log2_self_le h),
    Nat.mul_lt_mul_of_pos_right Nat.lt_log2_self unitsPerOne_pos⟩

/-- **Rounding moves an integer of at most 64 bits by at most 1024.** -/
theorem signedUnits_error (hn : n.natAbs < 2 ^ 64) (h : ofInt? n = some x) :
    (x.signedUnits - n * unitsPerOne).natAbs ≤ 1024 * unitsPerOne := by
  obtain ⟨sign, units⟩ := units_of_ofInt? h
  by_cases h0 : n.natAbs = 0
  · have zero : x.units = 0 := by simp [units, h0, roundHalfEven]
    have : x.signedUnits.natAbs = 0 := by rw [natAbs_signedUnits, zero]
    rw [Int.natAbs_eq_zero] at this h0
    rw [this, h0, Int.zero_mul, Int.sub_zero]
    exact Nat.zero_le _
  have bits : n.natAbs.log2 ≤ 63 := Nat.lt_succ_iff.mp ((Nat.log2_lt h0).mpr hn)
  -- the last bit that is kept counts for 2048 at most
  have last : 2 ^ ((n.natAbs * unitsPerOne).log2 - 52) ≤ 2048 * unitsPerOne := by
    rw [log2_mul_unitsPerOne h0]
    exact two_pow_le_mul_unitsPerOne (show 2048 = 2 ^ 11 from rfl) (by omega)
  have error := roundHalfEven_error (n.natAbs * unitsPerOne)
    (Nat.two_pow_pos ((n.natAbs * unitsPerOne).log2 - 52))
  rw [← units] at error
  have magnitude : ((x.units : Int) - n.natAbs * unitsPerOne).natAbs ≤ 1024 * unitsPerOne := by
    rw [← Nat.cast_mul]
    omega
  have : x.signedUnits - n * unitsPerOne
      = if n < 0 then -((x.units : Int) - n.natAbs * unitsPerOne)
        else (x.units : Int) - n.natAbs * unitsPerOne := by
    rw [signedUnits, sign]
    by_cases hs : n < 0
    · rw [if_pos (decide_eq_true hs), if_pos hs, Int.ofNat_natAbs_of_nonpos hs.le]
      ring
    · rw [if_neg (by simpa using hs), if_neg hs, Int.natAbs_of_nonneg (not_lt.mp hs)]
  rw [this]
  split
  · rwa [Int.natAbs_neg]
  · exact magnitude

/-- **Rounding never goes below the leading bit.** -/
theorem two_pow_log2_le_units (h : ofInt? n = some x) (bits : 52 ≤ (n.natAbs * unitsPerOne).log2) :
    2 ^ (n.natAbs * unitsPerOne).log2 ≤ x.units := by
  rw [(units_of_ofInt? h).2]
  generalize n.natAbs * unitsPerOne = scaled at bits ⊢
  have nonzero : scaled ≠ 0 := by
    rintro rfl
    rw [Nat.log2_zero] at bits
    omega
  have places : scaled.log2 = 52 + (scaled.log2 - 52) := by omega
  generalize scaled.log2 - 52 = e at places ⊢
  have kept : 2 ^ 52 ≤ roundHalfEven scaled (2 ^ e) :=
    (le_div_two_pow nonzero places).trans (roundHalfEven_bounds scaled (2 ^ e)).1
  calc 2 ^ scaled.log2 = 2 ^ 52 * 2 ^ e := by rw [places, pow_add]
    _ ≤ roundHalfEven scaled (2 ^ e) * 2 ^ e := Nat.mul_le_mul_right _ kept

/-- An integer of more than 53 bits is not rounded to a double of fewer. -/
theorem le_units_of_ofInt? (hn : 0x20000000000000 ≤ n.natAbs) (h : ofInt? n = some x) :
    0x20000000000000 * unitsPerOne ≤ x.units := by
  have h0 : n.natAbs ≠ 0 := by omega
  have bits : 53 ≤ n.natAbs.log2 := (Nat.le_log2 h0).mpr hn
  have scaled := log2_mul_unitsPerOne h0
  calc 0x20000000000000 * unitsPerOne ≤ 2 ^ (n.natAbs * unitsPerOne).log2 :=
        mul_unitsPerOne_le_two_pow (show 0x20000000000000 = 2 ^ 53 from rfl) (by omega)
    _ ≤ x.units := two_pow_log2_le_units h (by omega)

end Double

namespace Number

variable {m n : Int} {hm : -0x8000000000000000 ≤ m ∧ m < 0x10000000000000000}
  {hn : -0x8000000000000000 ≤ n ∧ n < 0x10000000000000000}

/-- **Integers that agree are at most 2048 apart.** -/
theorem natAbs_sub_le_of_agrees (h : (int m hm).agrees (int n hn) = true) :
    (m - n).natAbs ≤ 2048 := by
  obtain ⟨x, y, hx, hy, hv⟩ := agrees_iff.mp h
  have errorm := Double.signedUnits_error (by omega) hx
  have errorn := Double.signedUnits_error (by omega) hy
  rw [Double.value_eq_iff.mp hv] at errorm
  have scaled : (m - n).natAbs * Double.unitsPerOne ≤ 2048 * Double.unitsPerOne := by
    have : ((m - n) * Double.unitsPerOne : Int)
        = (y.signedUnits - n * Double.unitsPerOne) - (y.signedUnits - m * Double.unitsPerOne) := by
      ring
    rw [← Int.natAbs_natCast Double.unitsPerOne, ← Int.natAbs_mul, this, Int.natAbs_natCast]
    omega
  exact Nat.le_of_mul_le_mul_right scaled Double.unitsPerOne_pos

/-- **An integer of at most 53 bits agrees with itself only.** -/
theorem eq_of_agrees (small : n.natAbs < 0x20000000000000)
    (h : (int m hm).agrees (int n hn) = true) : m = n := by
  have exactn : Exact (int n hn) := exact_int small
  by_cases large : m.natAbs < 0x20000000000000
  · exact Int.cast_injective (value_eq_of_agrees (exact_int large) exactn h)
  · obtain ⟨x, y, hx, hy, hv⟩ := agrees_iff.mp h
    have value : y.value = n := toDouble?_value exactn hy
    have units : x.units = n.natAbs * Double.unitsPerOne := by
      rw [← Double.natAbs_signedUnits, Double.value_eq_int_iff.mp (hv.trans value), Int.natAbs_mul,
        Int.natAbs_natCast]
    have above := Double.le_units_of_ofInt? (not_lt.mp large) hx
    rw [units] at above
    exact absurd (Nat.le_of_mul_le_mul_right above Double.unitsPerOne_pos) (not_le.mpr small)

theorem agrees_comm (m n : Number) : m.agrees n = n.agrees m := by
  rw [Bool.eq_iff_iff, agrees_iff, agrees_iff]
  constructor <;> rintro ⟨x, y, hx, hy, hv⟩ <;> exact ⟨y, x, hy, hx, hv.symm⟩

end Number

end Dossier
