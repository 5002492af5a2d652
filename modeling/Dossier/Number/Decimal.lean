import Dossier.Number.Double

/-!
# Number — doubles as decimals

`Double.shortest` gives the decimal of fewest digits that rounds to the double, and the nearest of
these.  The digits of a number with leading digit at `10 ^ e` lie on the grids `10 ^ e`,
`10 ^ (e - 1)`, …; on each grid only the two neighbours of the number need to be tried, and the
first grid with a hit has the fewest digits.

`Double.text` writes that decimal: positional when the leading digit stands between `10 ^ -5` and
`10 ^ 15`, always with a fraction, and in scientific form otherwise.
-/

namespace Dossier

/-- The magnitude `digits · 10 ^ scale`. -/
structure Decimal where
  digits : Nat
  scale : Int
  deriving DecidableEq

namespace Double

/-- The power of ten of the leading digit, for a double other than zero. -/
def leadingPower (x : Double) : Int :=
  (Nat.toDigits 10 (x.units * Nat.pow 10 400 / unitsPerOne)).length - 401

/-- Does the decimal round to the double's magnitude? -/
def readsBack (x : Double) (d : Decimal) : Bool :=
  ofDecimal? x.negative d.digits d.scale = some x

/-- The number's better neighbour on the grid `10 ^ scale`, among those that read back; a tie goes
to the even one. -/
def onGrid? (x : Double) (scale : Int) : Option Decimal :=
  let num := x.units * Nat.pow 10 (-scale).toNat
  let den := unitsPerOne * Nat.pow 10 scale.toNat
  let low : Decimal := ⟨num / den, scale⟩
  let high : Decimal := ⟨num / den + 1, scale⟩
  match x.readsBack low, x.readsBack high with
  | true, true => some (if roundHalfEven num den = low.digits then low else high)
  | true, false => some low
  | false, true => some high
  | false, false => none

/-- The double's magnitude written out in full. -/
def exact (x : Double) : Decimal := ⟨x.units * Nat.pow 5 1074, -1074⟩

/-- The nearest of the shortest decimals that round to the double; seventeen digits suffice. -/
def shortest (x : Double) : Decimal :=
  ((List.range 17).findSome? fun (k : Nat) => x.onGrid? (x.leadingPower - k)).getD x.exact

end Double

namespace Decimal

/-- The decimal digits without trailing zeros. -/
def significant (d : Decimal) : List Char :=
  ((Nat.toDigits 10 d.digits).reverse.dropWhile (· = '0')).reverse

/-- The power of ten of the leading digit. -/
def leadingPower (d : Decimal) : Int := (Nat.toDigits 10 d.digits).length - 1 + d.scale

/-- The magnitude in positional form with a fraction: `120.0`, `0.05`. -/
def positional (d : Decimal) : List Char :=
  let ds := d.significant
  if d.leadingPower < 0 then
    '0' :: '.' :: List.replicate (-d.leadingPower - 1).toNat '0' ++ ds
  else
    let whole := d.leadingPower.toNat + 1
    let fraction := ds.drop whole
    (ds ++ List.replicate (whole - ds.length) '0').take whole
      ++ '.' :: (if fraction = [] then ['0'] else fraction)

/-- The magnitude in scientific form: `1e+16`, `1.25e-7`. -/
def scientific (d : Decimal) : List Char :=
  let mantissa := match d.significant with
    | [] => ['0']
    | [first] => [first]
    | first :: rest => first :: '.' :: rest
  let sign := if d.leadingPower < 0 then '-' else '+'
  mantissa ++ 'e' :: sign :: Nat.toDigits 10 d.leadingPower.natAbs

/-- Leading digits from `10 ^ -5` to `10 ^ 15` are written in positional form. -/
def text (d : Decimal) : List Char :=
  if d.digits = 0 then ['0', '.', '0']
  else if -5 ≤ d.leadingPower ∧ d.leadingPower ≤ 15 then d.positional
  else d.scientific

end Decimal

namespace Double

/-- The shortest text that reads back as the double. -/
def text (x : Double) : List Char :=
  let magnitude := if x.significand = 0 then ⟨0, 0⟩ else x.shortest
  if x.negative then '-' :: magnitude.text else magnitude.text

end Double

end Dossier
