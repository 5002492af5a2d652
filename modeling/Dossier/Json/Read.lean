import Dossier.Json.Token

/-!
# Json — reading a text

`Json.read?` reads the text of one value.  Where an object names a key twice, the later value takes
the place of the earlier one, so that what is read is well formed.
-/

namespace Dossier.Json

mutual

/-- A value at the head of the tokens, and the tokens after it. -/
def readValue : Nat → List Token → Option (Json × List Token)
  | _, .literal v :: rest => some (v, rest)
  | _, .quoted s :: rest => some (.str s, rest)
  | _, .openBracket :: .closeBracket :: rest => some (.arr [], rest)
  | _, .openBrace :: .closeBrace :: rest => some (.obj [], rest)
  | n + 1, .openBracket :: rest => do
    let (items, rest) ← readItems n rest
    some (.arr items, rest)
  | n + 1, .openBrace :: rest => do
    let (fields, rest) ← readFields n rest
    some (.obj (Fields.ofList fields), rest)
  | _, _ => none

/-- Items up to the closing bracket. -/
def readItems : Nat → List Token → Option (List Json × List Token)
  | n + 1, tokens => do
    let (v, rest) ← readValue n tokens
    match rest with
    | .comma :: rest => do
      let (items, rest) ← readItems n rest
      some (v :: items, rest)
    | .closeBracket :: rest => some ([v], rest)
    | _ => none
  | 0, _ => none

/-- Entries up to the closing brace. -/
def readFields : Nat → List Token → Option (List (String × Json) × List Token)
  | n + 1, .quoted k :: .colon :: tokens => do
    let (v, rest) ← readValue n tokens
    match rest with
    | .comma :: rest => do
      let (fields, rest) ← readFields n rest
      some ((k, v) :: fields, rest)
    | .closeBrace :: rest => some ([(k, v)], rest)
    | _ => none
  | _, _ => none

end

/-- The value that a text stands for. -/
def read? (s : String) : Option Json := do
  let tokens ← Token.ofChars? s.toList
  match readValue tokens.length tokens with
  | some (v, []) => some v
  | _ => none

end Dossier.Json
