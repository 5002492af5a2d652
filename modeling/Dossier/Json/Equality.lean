import Dossier.Json.Basic

/-!
# Json — equality of values

Two objects are equal when they hold the same keys with equal values, in whatever order.  Numbers
are equal when they are of one kind and of one value: `1` differs from `1.0`, and `0.0` equals
`-0.0`.
-/

namespace Dossier.Json

mutual

/-- Equality of values. -/
def equal : Json → Json → Bool
  | .null, w => match w with
    | .null => true
    | _ => false
  | .bool a, w => match w with
    | .bool b => a == b
    | _ => false
  | .num m, w => match w with
    | .num n => decide (Number.Equal m n)
    | _ => false
  | .str s, w => match w with
    | .str t => s == t
    | _ => false
  | .arr items, w => match w with
    | .arr others => equalItems items others
    | _ => false
  | .obj fields, w => match w with
    | .obj others => fields.length == others.length && equalFields fields others
    | _ => false

/-- Arrays are compared item by item. -/
def equalItems : List Json → List Json → Bool
  | [], ws => ws.isEmpty
  | v :: rest, ws => match ws with
    | [] => false
    | w :: ws => equal v w && equalItems rest ws

/-- Every entry has an equal one under its key. -/
def equalFields : List (String × Json) → Fields Json → Bool
  | [], _ => true
  | (k, v) :: rest, others =>
    (match Fields.find? others k with
      | some w => equal v w
      | none => false) && equalFields rest others

end

/-- Equality of tables: the same keys with equal values. -/
def equalTables (t u : Fields Json) : Bool := equal (.obj t) (.obj u)

end Dossier.Json
