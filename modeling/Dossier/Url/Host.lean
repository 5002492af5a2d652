import Dossier.Url.Error
import Dossier.Url.Percent

/-!
# Url — hosts

A host is a name, an IPv4 address or an IPv6 address.  The hosts of special schemes are domain
names: they are decoded and put in lower case, and a name whose last part is a number must be an
IPv4 address.  Other schemes take the name as it is.

Domain names here are names in ASCII.  One with any other character in it is refused, where the
standard has it converted first, and one that starts with `xn--` is taken as it is, where the standard
looks into it.
-/

namespace Dossier

inductive Host where
  | name (text : String)
  | ipv4 (address : Nat)
  | ipv6 (pieces : List Nat)
  deriving DecidableEq

namespace Host

/-- The parts of a text between the characters of a class. -/
def splitWhere (separates : Char → Bool) : List Char → List (List Char)
  | [] => [[]]
  | c :: rest =>
    match splitWhere separates rest with
    | part :: more => if separates c then [] :: part :: more else (c :: part) :: more
    | [] => [[c]]

/-- The number that digits of a base stand for, if they all are digits of it. -/
def number? (base : Nat) (cs : List Char) : Option Nat :=
  cs.foldlM (fun n c => (Percent.hexDigitValue? c).bind fun d =>
    if d < base then some (n * base + d) else none) 0

/-! ### IPv4 -/

/-- The value of a part of an IPv4 address: hexadecimal after `0x`, octal after `0`. -/
def ipv4Part? : List Char → Option Nat
  | [] => none
  | '0' :: 'x' :: digits => number? 16 digits
  | '0' :: 'X' :: digits => number? 16 digits
  | '0' :: c :: digits => number? 8 (c :: digits)
  | digits => number? 10 digits

/-- The parts between the dots, of which one at the end may be empty. -/
def dottedParts (cs : List Char) : List (List Char) :=
  let parts := splitWhere (· = '.') cs
  if 1 < parts.length ∧ parts.getLast? = some [] then parts.dropLast else parts

/-- Must a host that ends so be an IPv4 address? -/
def endsInNumber (cs : List Char) : Bool :=
  match (dottedParts cs).getLast? with
  | some part => (part ≠ [] && part.all Char.isDigit) || (ipv4Part? part).isSome
  | none => false

/-- The address of up to four parts, the last of which fills the remaining bytes. -/
def ipv4? (cs : List Char) : Option Nat := do
  let parts ← (dottedParts cs).mapM ipv4Part?
  let last ← parts.getLast?
  let first := parts.dropLast
  if 3 < first.length ∨ first.any (255 < ·) ∨ Nat.pow 256 (4 - first.length) ≤ last then none
  else some (((first ++ List.replicate (4 - first.length) 0).foldl (fun n b => n * 256 + b) 0) + last)

/-! ### IPv6 -/

/-- A part of an IPv6 address: one to four hexadecimal digits. -/
def ipv6Part? (cs : List Char) : Option Nat :=
  if cs = [] ∨ 4 < cs.length then none else number? 16 cs

/-- A byte written in decimal without leading zeros. -/
def byte? (cs : List Char) : Option Nat :=
  match cs with
  | [] => none
  | '0' :: _ :: _ => none
  | cs => (number? 10 cs).bind fun n => if n < 256 then some n else none

/-- The last part of an IPv6 address, which may be an IPv4 address of four bytes. -/
def ipv6LastPart? (cs : List Char) : Option (List Nat) :=
  if '.' ∈ cs then
    match (splitWhere (· = '.') cs).mapM byte? with
    | some [a, b, c, d] => some [a * 256 + b, c * 256 + d]
    | _ => none
  else (ipv6Part? cs).map ([·])

/-- Parts between colons, an IPv4 address being allowed at the end if there is an end. -/
def ipv6Parts? (isEnd : Bool) (cs : List Char) : Option (List Nat) :=
  if cs = [] then some []
  else do
    let parts := splitWhere (· = ':') cs
    let last ← parts.getLast?
    let first ← parts.dropLast.mapM ipv6Part?
    let last ← if isEnd then ipv6LastPart? last else (ipv6Part? last).map ([·])
    some (first ++ last)

/-- What stands before and after the first double colon. -/
def splitDoubleColon : List Char → Option (List Char × List Char)
  | ':' :: ':' :: rest => some ([], rest)
  | c :: rest => (splitDoubleColon rest).map fun (before, after) => (c :: before, after)
  | [] => none

/-- The eight pieces of an IPv6 address; a double colon stands for as many zeros as are missing,
but for one at least. -/
def ipv6? (cs : List Char) : Option (List Nat) :=
  match splitDoubleColon cs with
  | some (before, after) => do
    let before ← ipv6Parts? false before
    let after ← ipv6Parts? true after
    if before.length + after.length ≤ 7 then
      some (before ++ List.replicate (8 - before.length - after.length) 0 ++ after)
    else none
  | none => do
    let pieces ← ipv6Parts? true cs
    if pieces.length = 8 then some pieces else none

/-! ### Reading a host -/

/-- A character that no domain name holds. -/
def isForbidden (c : Char) : Bool :=
  c.toNat ≤ 0x20 || 0x7F ≤ c.toNat || "#%/:<>?@[\\]^|".contains c

/-- A character that no other name holds. -/
def isForbiddenInName (c : Char) : Bool :=
  c.toNat = 0 || " \t\n\r#/:<>?@[\\]^|".contains c

/-- The IPv6 address between brackets. -/
def bracketed (cs : List Char) : Except UrlError Host :=
  match cs.getLast?, ipv6? cs.dropLast with
  | some ']', some pieces => .ok (.ipv6 pieces)
  | _, _ => .error .invalidIpv6

/-- The host of a special scheme, if its name is one in ASCII. -/
def ofDomain (cs : List Char) : Except UrlError Host :=
  match cs with
  | '[' :: rest => bracketed rest
  | cs =>
    let decoded := (Percent.decode cs).map fun b => (Char.ofNat b.toNat).toLower
    if decoded.any isForbidden then .error .invalidDomainName
    else if decoded = [] then .error .emptyHost
    else if endsInNumber decoded then
      match ipv4? decoded with
      | some address => .ok (.ipv4 address)
      | none => .error .invalidIpv4
    else .ok (.name (String.ofList decoded))

/-- The host of any other scheme. -/
def ofName (cs : List Char) : Except UrlError Host :=
  match cs with
  | '[' :: rest => bracketed rest
  | cs =>
    if cs.any isForbiddenInName then .error .invalidHostCharacter
    else .ok (.name (String.ofList (Percent.encode Percent.inControls cs)))

/-! ### Writing a host -/

/-- The number of zeros a list starts with. -/
def leadingZeros (pieces : List Nat) : Nat := (pieces.takeWhile (· = 0)).length

/-- The place and the length of the first of the longest rows of zeros, the list starting at the
given place. -/
def longestZeros (place : Nat) : List Nat → Nat × Nat
  | [] => (place, 0)
  | n :: rest =>
    let here := leadingZeros (n :: rest)
    let (later, length) := longestZeros (place + 1) rest
    if length ≤ here then (place, here) else (later, length)

/-- Pieces in hexadecimal, joined by colons. -/
def colonText (pieces : List Nat) : String :=
  String.intercalate ":" (pieces.map fun n => String.ofList (Nat.toDigits 16 n))

/-- An IPv6 address, the first longest row of two zeros or more written as a double colon. -/
def ipv6Text (pieces : List Nat) : String :=
  let (place, length) := longestZeros 0 pieces
  if length < 2 then colonText pieces
  else colonText (pieces.take place) ++ "::" ++ colonText (pieces.drop (place + length))

/-- An IPv4 address as four bytes. -/
def ipv4Text (address : Nat) : String :=
  String.intercalate "." ([3, 2, 1, 0].map fun k => toString (address / Nat.pow 256 k % 256))

def text : Host → String
  | .name text => text
  | .ipv4 address => ipv4Text address
  | .ipv6 pieces => "[" ++ ipv6Text pieces ++ "]"

end Host

end Dossier
