/-!
# Number — finite binary64 numbers

A double is `± significand · 2 ^ exponent`, counted in units of `2 ^ -1074`, the least positive
double.  The significand has at most 53 bits, and exactly 53 unless the exponent is zero, so every
value but zero has one representation; zero has two, told apart by their sign. (The bounds `2 ^ 53`
and `2 ^ 52` are written in hexadecimal.)

* `Double.ofRatio?` rounds a quotient to the nearest double, a tie to the even significand.
* `Double.Equal` is the comparison in which the two zeros are equal.
-/

namespace Dossier

/-- A finite binary64 number. -/
structure Double where
  negative : Bool
  /-- The digits, an integer of at most 53 bits. -/
  significand : Nat
  /-- The power of two, counted from the least positive double. -/
  exponent : Nat
  significand_lt : significand < 0x20000000000000
  exponent_le : exponent ≤ 2045
  normal : exponent = 0 ∨ 0x10000000000000 ≤ significand
  deriving DecidableEq

/-- The quotient rounded to an integer, a half to the even neighbour. -/
def roundHalfEven (num den : Nat) : Nat :=
  let low := num / den
  let rest := num % den
  if den < 2 * rest ∨ (2 * rest = den ∧ low % 2 = 1) then low + 1 else low

namespace Double

/-- How many of the least positive double make one. -/
def unitsPerOne : Nat := Nat.pow 2 1074

/-- The magnitude in units of the least positive double. -/
def units (x : Double) : Nat := x.significand * Nat.pow 2 x.exponent

/-- Positive or negative zero. -/
def zero (negative : Bool) : Double := ⟨negative, 0, 0, by decide, by decide, .inl rfl⟩

/-- The double with these parts, if they are in range. -/
def ofParts? (negative : Bool) (significand exponent : Nat) : Option Double :=
  if h : significand < 0x20000000000000 ∧ exponent ≤ 2045
      ∧ (exponent = 0 ∨ 0x10000000000000 ≤ significand) then
    some ⟨negative, significand, exponent, h.1, h.2.1, h.2.2⟩
  else none

/-- The double nearest to `± num / den`, a tie going to the even significand; none when that lies
beyond the largest double. -/
def ofRatio? (negative : Bool) (num den : Nat) : Option Double :=
  let scaled := num * unitsPerOne
  let exponent := (scaled / den).log2 - 52
  let significand := roundHalfEven scaled (den * Nat.pow 2 exponent)
  if significand = 0x20000000000000 then ofParts? negative 0x10000000000000 (exponent + 1)
  else ofParts? negative significand exponent

/-- The double nearest to an integer. -/
def ofInt? (n : Int) : Option Double := ofRatio? (decide (n < 0)) n.natAbs 1

/-- The double nearest to `± digits · 10 ^ scale`. -/
def ofDecimal? (negative : Bool) (digits : Nat) (scale : Int) : Option Double :=
  let size : Int := (Nat.toDigits 10 digits).length
  if digits = 0 ∨ size + scale < -400 then some (zero negative)
  else if 400 < size + scale then none
  else ofRatio? negative (digits * Nat.pow 10 scale.toNat) (Nat.pow 10 (-scale).toNat)

/-- Equality of values: zero has no sign. -/
def Equal (x y : Double) : Prop := x = y ∨ (x.significand = 0 ∧ y.significand = 0)

instance (x y : Double) : Decidable (Equal x y) :=
  inferInstanceAs (Decidable (x = y ∨ (x.significand = 0 ∧ y.significand = 0)))

/-- Has the number no fraction? -/
def isWhole (x : Double) : Bool := x.units % unitsPerOne = 0

end Double

end Dossier
