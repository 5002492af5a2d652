import Dossier.Json.Basic
import Dossier.Entity.Error

/-!
# Entity — typed values

How a typed value is written into a record and read back.  Integers stay integers and doubles stay
doubles, except that an integer can be read as a double; a value that is no finite double is
written as null, and so is a value that is missing.
-/

namespace Dossier

/-- Types whose values have a record form. -/
class Codec (α : Type) where
  encode : α → Except EncodeError Json
  decode : Json → Option α

/-- A binary64 value, finite or not. -/
inductive Binary64 where
  | finite (value : Double)
  | infinite (negative : Bool)
  | notANumber
  deriving DecidableEq

namespace Codec

/-- The integer of a number value that is one. -/
def int? : Json → Option Int
  | .num n => n.toInt?
  | _ => none

/-- An integer as a number value; null when it is out of range. -/
def ofInt (n : Int) : Json :=
  match Number.ofInt? n with
  | some number => .num number
  | none => .null

instance : Codec String where
  encode s := .ok (.str s)
  decode := Json.str?

instance : Codec Bool where
  encode b := .ok (.bool b)
  decode
    | .bool b => some b
    | _ => none

instance : Codec Int64 where
  encode n := .ok (ofInt n.toInt)
  decode v := (int? v).bind fun n =>
    if -0x8000000000000000 ≤ n ∧ n < 0x8000000000000000 then some (Int64.ofInt n) else none

instance : Codec UInt64 where
  encode n := .ok (ofInt n.toNat)
  decode v := (int? v).bind fun n =>
    if 0 ≤ n ∧ n < 0x10000000000000000 then some (UInt64.ofNat n.toNat) else none

instance : Codec UInt8 where
  encode n := .ok (ofInt n.toNat)
  decode v := (int? v).bind fun n =>
    if 0 ≤ n ∧ n < 0x100 then some (UInt8.ofNat n.toNat) else none

instance : Codec Binary64 where
  encode
    | .finite x => .ok (.num (.real x))
    | _ => .ok .null
  decode
    | .num n => n.toDouble?.map .finite
    | _ => none

instance : Codec Json where
  encode v := .ok v
  decode := some

instance {α : Type} [Codec α] : Codec (List α) where
  encode xs := (xs.mapM encode).map .arr
  decode v := v.arr?.bind fun items => items.mapM decode

instance {α : Type} [Codec α] : Codec (Option α) where
  encode
    | none => .ok .null
    | some x => encode x
  decode
    | .null => some none
    | v => (decode v).map some

end Codec

/-- A table whose keys are lists of texts, which no record can hold. -/
structure ListKeyed (α : Type) where
  entries : List (List String × α)

namespace ListKeyed

instance {α : Type} [Codec α] : Codec (ListKeyed α) where
  encode
    | ⟨[]⟩ => .ok (.obj [])
    | ⟨_ :: _⟩ => .error .keyNotText
  decode _ := none

end ListKeyed

end Dossier
