import Mathlib.Data.Rat.Cast.Order
import Mathlib.Tactic.Ring
import Dossier.Number.Basic

/-!
# Number — values

A number stands for a rational: an integer for itself, and a double for its units over the units
that make one.

* `Double.equal_iff`, `Double.isWhole_iff`: doubles are equal when their values are, and have no
  fraction when their value is an integer.
* `Double.ofRatio?_of_units`: rounding a double's own value gives that double.
* `Number.exists_toDouble?`: every number has a nearest double.
* `Number.agrees_of_value_eq`, `Number.value_eq_of_agrees`: numbers of one value agree.  The other way
  round this takes that their values are values of doubles (`Number.Exact`), as those of the integers
  of at most 53 bits are (`Number.exact_int`).
-/

namespace Dossier

theorem roundHalfEven_mul (n : Nat) {den : Nat} (h : 0 < den) : roundHalfEven (n * den) den = n := by
  simp [roundHalfEven, Nat.mul_mod_left, Nat.mul_div_cancel _ h, h.ne]

/-- Rounding moves to a neighbour at most. -/
theorem roundHalfEven_bounds (num den : Nat) :
    num / den ≤ roundHalfEven num den ∧ roundHalfEven num den ≤ num / den + 1 := by
  simp only [roundHalfEven]
  split <;> omega

namespace Double

variable {x y : Double}

theorem unitsPerOne_pos : 0 < unitsPerOne := by
  unfold unitsPerOne
  generalize 1074 = e
  exact Nat.two_pow_pos e

/-- The number in units of the least positive double. -/
def signedUnits (x : Double) : Int := if x.negative then -x.units else x.units

/-- The rational that the double stands for. -/
def value (x : Double) : ℚ := x.signedUnits / unitsPerOne

theorem natAbs_signedUnits (x : Double) : x.signedUnits.natAbs = x.units := by
  unfold signedUnits
  split <;> simp

theorem unitsPerOne_ne_zero : (unitsPerOne : ℚ) ≠ 0 := Nat.cast_ne_zero.mpr unitsPerOne_pos.ne'

theorem value_eq_iff : x.value = y.value ↔ x.signedUnits = y.signedUnits := by
  rw [value, value, div_left_inj' unitsPerOne_ne_zero, Int.cast_inj]

theorem value_eq_int_iff {n : Int} : x.value = n ↔ x.signedUnits = n * unitsPerOne := by
  rw [value, div_eq_iff unitsPerOne_ne_zero]
  norm_cast

/-- The leading digit of the units is the 53rd of the significand, unless the exponent is zero. -/
theorem log2_units (x : Double) : x.units.log2 - 52 = x.exponent := by
  have hs := x.significand_lt
  rcases x.normal with he | hn
  · have : x.units = x.significand := by simp [units, he]
    rw [this, he]
    by_cases h0 : x.significand = 0
    · simp [h0]
    · have : x.significand.log2 < 53 := (Nat.log2_lt h0).mpr hs
      omega
  · have h0 : x.units ≠ 0 := Nat.mul_ne_zero (by omega) (Nat.pow_pos (by decide)).ne'
    have : x.units.log2 = 52 + x.exponent := by
      rw [Nat.log2_eq_iff h0, units, Nat.pow_eq, Nat.add_right_comm, pow_add, pow_add _ 53]
      exact ⟨Nat.mul_le_mul_right _ hn, Nat.mul_lt_mul_of_pos_right hs (Nat.pow_pos (by decide))⟩
    omega

/-- A magnitude has one representation. -/
theorem units_inj (h : x.units = y.units) :
    x.significand = y.significand ∧ x.exponent = y.exponent := by
  have he : x.exponent = y.exponent := by rw [← log2_units, h, log2_units]
  rw [units, units, he] at h
  exact ⟨Nat.eq_of_mul_eq_mul_right (Nat.pow_pos (by decide)) h, he⟩

theorem units_eq_zero_iff : x.units = 0 ↔ x.significand = 0 := by
  simp [units]

/-- **Doubles are equal when their values are.** -/
theorem equal_iff : x.Equal y ↔ x.value = y.value := by
  rw [value_eq_iff]
  constructor
  · rintro (rfl | ⟨hx, hy⟩)
    · rfl
    · simp [signedUnits, units_eq_zero_iff.mpr hx, units_eq_zero_iff.mpr hy]
  · intro h
    have hu : x.units = y.units := by rw [← natAbs_signedUnits, h, natAbs_signedUnits]
    by_cases h0 : x.units = 0
    · exact .inr ⟨units_eq_zero_iff.mp h0, units_eq_zero_iff.mp (hu ▸ h0)⟩
    · -- the units differ from their negative, so the signs are the same
      have hn : x.negative = y.negative := by
        cases hx : x.negative <;> cases hy : y.negative <;> simp [signedUnits, hx, hy] at h ⊢ <;> omega
      obtain ⟨hs, he⟩ := units_inj hu
      obtain ⟨_, _, _, _, _, _⟩ := x
      obtain ⟨_, _, _, _, _, _⟩ := y
      cases hn; cases hs; cases he
      exact .inl rfl

/-- A double has no fraction when its value is an integer. -/
theorem isWhole_iff : x.isWhole = true ↔ ∃ k : ℤ, x.value = k := by
  simp only [value_eq_int_iff, ← dvd_iff_exists_eq_mul_left]
  rw [isWhole, decide_eq_true_eq, ← Nat.dvd_iff_mod_eq_zero, ← natAbs_signedUnits,
    Int.natCast_dvd]

/-- **Rounding a double's own value gives that double.** -/
theorem ofRatio?_of_units (negative : Bool) {num den : Nat} (hd : 0 < den)
    (h : num * unitsPerOne = x.units * den) :
    ofRatio? negative num den = some { x with negative := negative } := by
  have significand : roundHalfEven (x.units * den) (den * Nat.pow 2 x.exponent) = x.significand := by
    have : x.units * den = x.significand * (den * Nat.pow 2 x.exponent) := by
      rw [units]; ring
    rw [this]
    exact roundHalfEven_mul _ (Nat.mul_pos hd (Nat.two_pow_pos _))
  have carry : x.significand ≠ 0x20000000000000 := x.significand_lt.ne
  simp only [ofRatio?, h, Nat.mul_div_cancel _ hd, log2_units, significand, if_neg carry]
  rw [ofParts?, dif_pos ⟨x.significand_lt, x.exponent_le, x.normal⟩]

theorem div_two_pow_lt {q e : Nat} (h : q.log2 ≤ 52 + e) : q / Nat.pow 2 e < 0x20000000000000 := by
  rw [Nat.pow_eq, Nat.div_lt_iff_lt_mul (Nat.two_pow_pos e)]
  calc q < 2 ^ (q.log2 + 1) := Nat.lt_log2_self
    _ ≤ 2 ^ (53 + e) := Nat.pow_le_pow_right (by decide) (by omega)
    _ = 0x20000000000000 * 2 ^ e := by rw [pow_add]; rfl

theorem le_div_two_pow {q e : Nat} (hq : q ≠ 0) (h : q.log2 = 52 + e) :
    0x10000000000000 ≤ q / Nat.pow 2 e := by
  rw [Nat.pow_eq, Nat.le_div_iff_mul_le (Nat.two_pow_pos e)]
  calc 0x10000000000000 * 2 ^ e = 2 ^ q.log2 := by rw [h, pow_add]; rfl
    _ ≤ q := Nat.log2_self_le hq

/-- A quotient of at most 2097 bits, in units of the least positive double, has a nearest double. -/
theorem exists_ofRatio? (negative : Bool) {num den : Nat}
    (h : (num * unitsPerOne / den).log2 < 2097) : ∃ x, ofRatio? negative num den = some x := by
  simp only [ofRatio?]
  generalize num * unitsPerOne = scaled at h ⊢
  generalize he : (scaled / den).log2 - 52 = e
  obtain ⟨low, high⟩ := roundHalfEven_bounds scaled (den * Nat.pow 2 e)
  generalize roundHalfEven scaled (den * Nat.pow 2 e) = significand at low high ⊢
  rw [← Nat.div_div_eq_div_mul] at low high
  generalize scaled / den = q at h he low high
  have below : q / Nat.pow 2 e < 0x20000000000000 := div_two_pow_lt (by omega)
  have normal : e = 0 ∨ 0x10000000000000 ≤ q / Nat.pow 2 e := by
    rcases Nat.eq_zero_or_pos e with h0 | h0
    · exact .inl h0
    · have hq : q ≠ 0 := by
        rintro rfl
        rw [Nat.log2_zero] at he
        omega
      exact .inr (le_div_two_pow hq (by omega))
  -- rounding up may carry into a 54th bit, and the exponent then goes up by one
  by_cases carry : significand = 0x20000000000000
  · rw [if_pos carry, ofParts?, dif_pos ⟨by decide, by omega, .inr (Nat.le_refl _)⟩]
    exact ⟨_, rfl⟩
  · rw [if_neg carry, ofParts?, dif_pos ⟨by omega, by omega, by omega⟩]
    exact ⟨_, rfl⟩

theorem log2_mul_unitsPerOne_le {n k : Nat} (h : n < 2 ^ k) :
    (n * unitsPerOne).log2 ≤ k + 1074 := by
  unfold unitsPerOne
  generalize 1074 = e
  by_cases h0 : n = 0
  · simp [h0]
  · refine Nat.le_of_lt ((Nat.log2_lt (Nat.mul_ne_zero h0 (Nat.two_pow_pos e).ne')).mpr ?_)
    rw [pow_add]
    exact Nat.mul_lt_mul_of_pos_right h (Nat.two_pow_pos e)

theorem exists_ofInt? {n : Int} (h : n.natAbs < 2 ^ 100) : ∃ x, ofInt? n = some x := by
  have := log2_mul_unitsPerOne_le h
  exact exists_ofRatio? _ (by rw [Nat.div_one]; omega)

theorem value_of_units {n : Int} (hn : x.negative = decide (n < 0))
    (hu : x.units = n.natAbs * unitsPerOne) : x.value = n := by
  rw [value_eq_int_iff, signedUnits, hn, hu, Nat.cast_mul]
  by_cases h : n < 0
  · rw [if_pos (decide_eq_true h), Int.ofNat_natAbs_of_nonpos h.le, neg_mul, neg_neg]
  · rw [if_neg (by simpa using h), Int.natAbs_of_nonneg (not_lt.mp h)]

/-- An integer that is the value of a double is the value of its nearest double. -/
theorem value_of_ofInt? {n : Int} (h : x.value = n) {y : Double} (hy : ofInt? n = some y) :
    y.value = n := by
  have units : x.units = n.natAbs * unitsPerOne := by
    rw [← natAbs_signedUnits, value_eq_int_iff.mp h, Int.natAbs_mul, Int.natAbs_natCast]
  have nearest : ofInt? n = some { x with negative := decide (n < 0) } :=
    ofRatio?_of_units _ Nat.one_pos (by rw [units, mul_one])
  obtain rfl := Option.some.inj (hy.symm.trans nearest)
  exact value_of_units rfl units

/-- Every integer of at most 53 bits is the value of a double. -/
theorem exists_value_eq {n : Int} (h : n.natAbs < 0x20000000000000) :
    ∃ x : Double, x.value = n := by
  by_cases h0 : n.natAbs = 0
  · obtain rfl := Int.natAbs_eq_zero.mp h0
    have units : (zero false).units = 0 := units_eq_zero_iff.mpr rfl
    exact ⟨zero false, value_of_units rfl (by rw [units, Int.natAbs_zero, zero_mul])⟩
  have bits : n.natAbs.log2 ≤ 52 := Nat.lt_succ_iff.mp ((Nat.log2_lt h0).mpr h)
  -- the digits are shifted until the leading one is the 53rd
  generalize hs : 52 - n.natAbs.log2 = shift
  have below : n.natAbs * 2 ^ shift < 0x20000000000000 := by
    calc n.natAbs * 2 ^ shift < 2 ^ (n.natAbs.log2 + 1) * 2 ^ shift :=
          Nat.mul_lt_mul_of_pos_right Nat.lt_log2_self (Nat.two_pow_pos _)
      _ = 2 ^ 53 := by rw [← pow_add]; congr 1; omega
  have normal : 0x10000000000000 ≤ n.natAbs * 2 ^ shift := by
    calc 2 ^ 52 = 2 ^ n.natAbs.log2 * 2 ^ shift := by rw [← pow_add]; congr 1; omega
      _ ≤ n.natAbs * 2 ^ shift := Nat.mul_le_mul_right _ (Nat.log2_self_le h0)
  refine ⟨⟨decide (n < 0), _, n.natAbs.log2 + 1022, below, by omega, .inr normal⟩,
    value_of_units rfl ?_⟩
  have places : shift + (n.natAbs.log2 + 1022) = 1074 := by omega
  unfold units unitsPerOne
  rw [← places, Nat.pow_eq, Nat.pow_eq, mul_assoc, ← pow_add]

end Double

namespace Number

variable {m n : Number}

/-- The rational that the number stands for. -/
def value : Number → ℚ
  | .int n _ => n
  | .real x => x.value

/-- The number's value is the value of a double. -/
def Exact (n : Number) : Prop := ∃ x : Double, x.value = n.value

theorem exact_real (x : Double) : Exact (.real x) := ⟨x, rfl⟩

theorem exact_int {n : Int} {h} (hn : n.natAbs < 0x20000000000000) : Exact (.int n h) :=
  Double.exists_value_eq hn

theorem Exact.of_value_eq (h : m.value = n.value) (hm : m.Exact) : n.Exact :=
  hm.imp fun _ hx => hx.trans h

/-- A number has no fraction when its value is an integer. -/
theorem isWhole_iff : n.isWhole = true ↔ ∃ k : ℤ, n.value = k := by
  cases n with
  | int n _ => exact ⟨fun _ => ⟨n, rfl⟩, fun _ => rfl⟩
  | real x => exact x.isWhole_iff

/-- Every number has a nearest double. -/
theorem exists_toDouble? (n : Number) : ∃ x, n.toDouble? = some x := by
  cases n with
  | int n h => exact Double.exists_ofInt? (by omega)
  | real x => exact ⟨x, rfl⟩

/-- The nearest double has the number's value, if any double has. -/
theorem toDouble?_value (h : n.Exact) {x : Double} (hx : n.toDouble? = some x) :
    x.value = n.value := by
  cases n with
  | real y => exact congrArg Double.value (Option.some.inj hx).symm
  | int n _ =>
      obtain ⟨y, hy⟩ := h
      exact Double.value_of_ofInt? hy hx

theorem agrees_iff : m.agrees n = true ↔
    ∃ x y, m.toDouble? = some x ∧ n.toDouble? = some y ∧ x.value = y.value := by
  obtain ⟨x, hx⟩ := exists_toDouble? m
  obtain ⟨y, hy⟩ := exists_toDouble? n
  simp [agrees, hx, hy, Double.equal_iff]

/-- **Numbers of one value agree.** -/
theorem agrees_of_value_eq (h : m.value = n.value) : m.agrees n = true := by
  obtain ⟨x, hx⟩ := exists_toDouble? m
  obtain ⟨y, hy⟩ := exists_toDouble? n
  refine agrees_iff.mpr ⟨x, y, hx, hy, ?_⟩
  by_cases hm : m.Exact
  · rw [toDouble?_value hm hx, h, toDouble?_value (hm.of_value_eq h) hy]
  · -- neither is a double then, and an integer is known by its value
    cases m with
    | real x => exact absurd (exact_real x) hm
    | int m _ =>
        cases n with
        | real y => exact absurd ⟨y, h.symm⟩ hm
        | int n _ =>
            obtain rfl : m = n := Int.cast_injective h
            rw [Option.some.inj (hx.symm.trans hy)]

/-- **Exact numbers that agree have one value.** -/
theorem value_eq_of_agrees (hm : m.Exact) (hn : n.Exact) (h : m.agrees n = true) :
    m.value = n.value := by
  obtain ⟨x, y, hx, hy, hv⟩ := agrees_iff.mp h
  rw [← toDouble?_value hm hx, hv, toDouble?_value hn hy]

/-- Equal numbers have one value. -/
theorem value_eq_of_equal (h : m.Equal n) : m.value = n.value := by
  cases m with
  | int m _ =>
      cases n with
      | int n _ => exact congrArg Int.cast (show m = n from h)
      | real y => cases h
  | real x =>
      cases n with
      | int n _ => cases h
      | real y => exact Double.equal_iff.mp h

/-- A number that agrees with one of two equal numbers agrees with the other. -/
theorem agrees_of_equal {k : Number} (h : m.Equal n) (ha : k.agrees m = true) :
    k.agrees n = true := by
  cases m with
  | int m _ =>
      cases n with
      | int n _ => obtain rfl : m = n := h; exact ha
      | real y => cases h
  | real x =>
      cases n with
      | int n _ => cases h
      | real y =>
          obtain ⟨z, x', hz, hx, hv⟩ := agrees_iff.mp ha
          obtain rfl : x = x' := Option.some.inj hx
          exact agrees_iff.mpr ⟨z, y, hz, rfl, hv.trans (Double.equal_iff.mp h)⟩

end Number

end Dossier
