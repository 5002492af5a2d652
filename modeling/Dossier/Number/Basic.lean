import Dossier.Number.Decimal

/-!
# Number — the numbers of a record

A number is an integer of the signed or unsigned 64-bit range, or a finite double.  The two kinds
stay apart: `3` and `3.0` are different numbers, though `Number.agrees` compares them by value.

`Number.read?` reads a literal: an integer when it has neither fraction nor exponent and is in
range, the nearest double otherwise.
-/

namespace Dossier

/-- An integer of 64 bits, signed or unsigned, or a finite double. -/
inductive Number where
  | int (value : Int) (inRange : -0x8000000000000000 ≤ value ∧ value < 0x10000000000000000)
  | real (value : Double)
  deriving DecidableEq

namespace Number

/-- The integer as a number, if it is in range. -/
def ofInt? (n : Int) : Option Number :=
  if h : -0x8000000000000000 ≤ n ∧ n < 0x10000000000000000 then some (.int n h) else none

/-- The integer zero. -/
def zero : Number := .int 0 (by decide)

/-- The double nearest to the number. -/
def toDouble? : Number → Option Double
  | .int n _ => Double.ofInt? n
  | .real x => some x

/-- The integer, of a number that is one. -/
def toInt? : Number → Option Int
  | .int n _ => some n
  | .real _ => none

/-- An integer, or a double without a fraction. -/
def isWhole : Number → Bool
  | .int _ _ => true
  | .real x => x.isWhole

/-- Equality of numbers of one kind: an integer never equals a double. -/
def Equal : Number → Number → Prop
  | .int m _, .int n _ => m = n
  | .real x, .real y => x.Equal y
  | _, _ => False

instance : (m n : Number) → Decidable (Equal m n)
  | .int m _, .int n _ => inferInstanceAs (Decidable (m = n))
  | .real x, .real y => inferInstanceAs (Decidable (x.Equal y))
  | .int _ _, .real _ => .isFalse id
  | .real _, .int _ _ => .isFalse id

/-- Do the two numbers have the same nearest double? -/
def agrees (m n : Number) : Bool :=
  match m.toDouble?, n.toDouble? with
  | some x, some y => x.Equal y
  | _, _ => false

/-! ### Text -/

/-- Integers as digits, doubles by their shortest decimal. -/
def text : Number → List Char
  | .int n _ => if n < 0 then '-' :: Nat.toDigits 10 n.natAbs else Nat.toDigits 10 n.natAbs
  | .real x => x.text

/-- The value of a string of decimal digits. -/
def digitsValue (ds : List Char) : Nat := ds.foldl (fun n c => 10 * n + (c.toNat - 48)) 0

/-- One or more digits, the first of several not being zero. -/
def isWholePart : List Char → Bool
  | [] => false
  | [c] => c.isDigit
  | c :: rest => c.isDigit && c != '0' && rest.all Char.isDigit

/-- The exponent after the letter, with its optional sign. -/
def exponent? : List Char → Option Int
  | '-' :: ds => if ds ≠ [] ∧ ds.all Char.isDigit then some (-(digitsValue ds : Int)) else none
  | '+' :: ds => if ds ≠ [] ∧ ds.all Char.isDigit then some (digitsValue ds) else none
  | ds => if ds ≠ [] ∧ ds.all Char.isDigit then some (digitsValue ds) else none

/-- The power of ten at the end of a literal: none written is `10 ^ 0`. -/
def power? : List Char → Option Int
  | [] => some 0
  | c :: rest => if c = 'e' ∨ c = 'E' then exponent? rest else none

/-- A literal with its sign taken off: digits, then perhaps a fraction and a power of ten. -/
def unsigned? (negative : Bool) (cs : List Char) : Option Number :=
  let (whole, rest) := cs.span Char.isDigit
  if ! isWholePart whole then none
  else match rest with
    | [] =>
      let n : Int := digitsValue whole
      let small := if negative then (if n = 0 then none else ofInt? (-n)) else ofInt? n
      match small with
      | some number => some number
      | none => (Double.ofDecimal? negative (digitsValue whole) 0).map .real
    | '.' :: rest =>
      let (fraction, tail) := rest.span Char.isDigit
      if fraction = [] then none
      else do
        let power ← power? tail
        let x ← Double.ofDecimal? negative (digitsValue (whole ++ fraction)) (power - fraction.length)
        some (.real x)
    | tail => do
        let power ← power? tail
        let x ← Double.ofDecimal? negative (digitsValue whole) power
        some (.real x)

/-- The number a literal stands for. -/
def read? : List Char → Option Number
  | '-' :: rest => unsigned? true rest
  | cs => unsigned? false cs

end Number

end Dossier
