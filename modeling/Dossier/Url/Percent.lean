/-!
# Url — percent-encoding

The parts of a URL write some characters as `%` and the two hexadecimal digits of each of their
UTF-8 bytes.  Which characters these are depends on the part; those outside ASCII and the control
characters always are.  A `%` that is already there stays.
-/

namespace Dossier

namespace Percent

/-- A digit of base sixteen, in upper case. -/
def upperHexDigit (n : Nat) : Char :=
  Char.ofNat (if n % 16 < 10 then 48 + n % 16 else 55 + n % 16)

/-- A byte as `%` and two digits. -/
def encodeByte (b : UInt8) : List Char :=
  ['%', upperHexDigit (b.toNat / 16), upperHexDigit b.toNat]

/-- Writes the characters of a class byte by byte, and the others as they are. -/
def encode (isEncoded : Char → Bool) (cs : List Char) : List Char :=
  cs.flatMap fun c =>
    if isEncoded c then (String.utf8EncodeChar c).flatMap encodeByte else [c]

/-- The value of a digit of base sixteen. -/
def hexDigitValue? (c : Char) : Option Nat :=
  if c.isDigit then some (c.toNat - 48)
  else if 'a' ≤ c ∧ c ≤ 'f' then some (c.toNat - 87)
  else if 'A' ≤ c ∧ c ≤ 'F' then some (c.toNat - 55)
  else none

/-- The bytes of a text, encoded ones decoded. -/
def decode : List Char → List UInt8
  | [] => []
  | '%' :: a :: b :: rest =>
    match hexDigitValue? a, hexDigitValue? b with
    | some high, some low => UInt8.ofNat (16 * high + low) :: decode rest
    | _, _ => 37 :: decode (a :: b :: rest)
  | c :: rest => String.utf8EncodeChar c ++ decode rest

/-- The control characters and all that is not ASCII. -/
def inControls (c : Char) : Bool := c.toNat < 0x20 || 0x7E < c.toNat

/-- What a fragment does not write as it is. -/
def inFragment (c : Char) : Bool :=
  inControls c || c = ' ' || c = '\x22' || c = '<' || c = '>' || c = '\x60'

/-- What a query does not write as it is. -/
def inQuery (c : Char) : Bool :=
  inControls c || c = ' ' || c = '\x22' || c = '<' || c = '>' || c = '#'

/-- What the query of a URL of a special scheme does not write as it is. -/
def inSpecialQuery (c : Char) : Bool := inQuery c || c = '\x27'

/-- What a path does not write as it is. -/
def inPath (c : Char) : Bool :=
  inFragment c || c = '#' || c = '?' || c = '\x7b' || c = '\x7d'

/-- What a user name or a password does not write as it is. -/
def inUserInfo (c : Char) : Bool :=
  inPath c || c = '/' || c = ':' || c = ';' || c = '=' || c = '@' || c = '[' || c = '\\' || c = ']'
    || c = '^' || c = '|'

end Percent

end Dossier
