import Dossier.Json.Basic

/-!
# Json — the tokens of a text

A text is cut into brackets, commas, colons, quoted strings and bare words.  The cut is a walk over
the characters that carries what it is inside of; a string's escapes are decoded when its closing
quote is met, and a word is a literal or a number.
-/

namespace Dossier.Json

inductive Token where
  | openBracket
  | closeBracket
  | openBrace
  | closeBrace
  | comma
  | colon
  | quoted (text : String)
  | literal (value : Json)

namespace Token

/-- The value of a digit of base sixteen. -/
def hexValue? (c : Char) : Option Nat :=
  if c.isDigit then some (c.toNat - 48)
  else if 'a' ≤ c ∧ c ≤ 'f' then some (c.toNat - 87)
  else if 'A' ≤ c ∧ c ≤ 'F' then some (c.toNat - 55)
  else none

/-- The value of four digits of base sixteen. -/
def unit? (a b c d : Char) : Option Nat := do
  let a ← hexValue? a
  let b ← hexValue? b
  let c ← hexValue? c
  let d ← hexValue? d
  some (((a * 16 + b) * 16 + c) * 16 + d)

/-- The character that a letter after the backslash stands for. -/
def escaped? (c : Char) : Option Char :=
  if c = '\x22' ∨ c = '\\' ∨ c = '/' then some c
  else if c = 'b' then some '\x08'
  else if c = 'f' then some '\x0c'
  else if c = 'n' then some '\n'
  else if c = 'r' then some '\r'
  else if c = 't' then some '\t'
  else none

/-- The character with the given code, if there is one. -/
def char? (n : Nat) : Option Char := if n.isValidChar then some (Char.ofNat n) else none

/-- Decodes the escapes of a string; a code beyond the first 65536 is written as a pair. -/
def unescape : List Char → Option (List Char)
  | [] => some []
  | '\\' :: 'u' :: a :: b :: c :: d :: rest => do
    let high ← unit? a b c d
    if 0xD800 ≤ high ∧ high < 0xDC00 then
      match rest with
      | '\\' :: 'u' :: e :: f :: g :: h :: rest => do
        let low ← unit? e f g h
        if 0xDC00 ≤ low ∧ low < 0xE000 then do
          let c ← char? (0x10000 + (high - 0xD800) * 0x400 + (low - 0xDC00))
          (unescape rest).map (c :: ·)
        else none
      | _ => none
    else do
      let c ← char? high
      (unescape rest).map (c :: ·)
  | '\\' :: c :: rest => do
    let c ← escaped? c
    (unescape rest).map (c :: ·)
  | '\\' :: [] => none
  | c :: rest => (unescape rest).map (c :: ·)

/-- What the walk is inside of, the characters so far last first. -/
inductive Inside where
  | nothing
  | string (reversed : List Char) (afterBackslash : Bool)
  | word (reversed : List Char)

/-- A walk over a text: the tokens so far, last first. -/
structure Walk where
  inside : Inside
  reversed : List Token

/-- The token of a character that is one by itself. -/
def mark? (c : Char) : Option Token :=
  if c = '[' then some .openBracket
  else if c = ']' then some .closeBracket
  else if c = '\x7b' then some .openBrace
  else if c = '\x7d' then some .closeBrace
  else if c = ',' then some .comma
  else if c = ':' then some .colon
  else none

/-- A word is a literal or a number. -/
def word? (cs : List Char) : Option Token :=
  if cs = ['n', 'u', 'l', 'l'] then some (.literal .null)
  else if cs = ['t', 'r', 'u', 'e'] then some (.literal (.bool true))
  else if cs = ['f', 'a', 'l', 's', 'e'] then some (.literal (.bool false))
  else (Number.read? cs).map fun n => .literal (.num n)

/-- The four blanks that may stand between tokens. -/
def isBlank (c : Char) : Bool := c = ' ' || c = '\n' || c = '\r' || c = '\t'

/-- A character outside of strings, after the given tokens. -/
def start (c : Char) (tokens : List Token) : Walk :=
  match mark? c with
  | some t => ⟨.nothing, t :: tokens⟩
  | none =>
    if isBlank c then ⟨.nothing, tokens⟩
    else if c = '\x22' then ⟨.string [] false, tokens⟩
    else ⟨.word [c], tokens⟩

/-- One character further. -/
def step (w : Walk) (c : Char) : Option Walk :=
  match w.inside with
  | .nothing => some (start c w.reversed)
  | .string cs true => some ⟨.string (c :: cs) false, w.reversed⟩
  | .string cs false =>
    if c = '\x22' then do
      let decoded ← unescape cs.reverse
      some ⟨.nothing, .quoted (String.ofList decoded) :: w.reversed⟩
    else if c.toNat < 32 then none
    else some ⟨.string (c :: cs) (c = '\\'), w.reversed⟩
  | .word cs =>
    if (mark? c).isSome || isBlank c || c = '\x22' then do
      let t ← word? cs.reverse
      some (start c (t :: w.reversed))
    else some ⟨.word (c :: cs), w.reversed⟩

/-- The end of the text: a string must be closed. -/
def finish (w : Walk) : Option (List Token) :=
  match w.inside with
  | .nothing => some w.reversed.reverse
  | .string _ _ => none
  | .word cs => (word? cs.reverse).map fun t => (t :: w.reversed).reverse

/-- The tokens of a text. -/
def ofChars? (cs : List Char) : Option (List Token) :=
  (cs.foldlM step ⟨.nothing, []⟩).bind finish

end Token

end Dossier.Json
