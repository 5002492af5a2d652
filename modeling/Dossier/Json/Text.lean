import Dossier.Json.Basic

/-!
# Json — the text of a value

A value is written without blanks, object keys in their order.  A string escapes the quote, the
backslash and the characters below the space; every other character stands for itself.
-/

namespace Dossier.Json

/-- A digit of base sixteen, in lower case. -/
def hexDigit (n : Nat) : Char := (Nat.toDigits 16 (n % 16)).headD '0'

/-- A character as it stands inside a string. -/
def escape (c : Char) : String :=
  if c = '\x22' then "\\\""
  else if c = '\\' then "\\\\"
  else if c = '\x08' then "\\b"
  else if c = '\x0c' then "\\f"
  else if c = '\n' then "\\n"
  else if c = '\r' then "\\r"
  else if c = '\t' then "\\t"
  else if c.toNat < 32 then
    "\\u00" ++ String.ofList [hexDigit (c.toNat / 16), hexDigit c.toNat]
  else String.singleton c

/-- A string between quotes. -/
def quote (s : String) : String := "\"" ++ s.foldl (fun out c => out ++ escape c) "" ++ "\""

mutual

/-- The text of a value. -/
def text : Json → String
  | .null => "null"
  | .bool true => "true"
  | .bool false => "false"
  | .num n => String.ofList n.text
  | .str s => quote s
  | .arr items => "[" ++ String.intercalate "," (textItems items) ++ "]"
  | .obj fields => "\x7b" ++ String.intercalate "," (textFields fields) ++ "\x7d"

/-- The texts of the items. -/
def textItems : List Json → List String
  | [] => []
  | v :: rest => text v :: textItems rest

/-- The texts of the entries, each a quoted key and a value. -/
def textFields : List (String × Json) → List String
  | [] => []
  | (k, v) :: rest => (quote k ++ ":" ++ text v) :: textFields rest

end

end Dossier.Json
