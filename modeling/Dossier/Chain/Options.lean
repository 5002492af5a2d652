import Dossier.Mode
import Dossier.Chain.Layout
import Dossier.Url.Kind

/-!
# Chain — options

How chains are resolved: the layout of the records, the names that end a chain without a record,
the mode for fetched documents, the base of relative references, and how deep a chain may go.

Options are read from a value in which every field may be left out.  Like the layout inside them
they may also be written as an array of the fields' values in their order.
-/

namespace Dossier

structure Options (U : Type) where
  layout : Layout
  /-- In increasing order, none twice. -/
  builtIns : List String
  mode : Mode
  baseUrl : Option U
  maxDepth : Nat

namespace Options

variable {U : Type}

def standard : Options U := ⟨.standard, [], .standard, none, 64⟩

/-- Names in increasing order, each once. -/
def nameSet (names : List String) : List String :=
  (names.mergeSort fun a b => decide (a ≤ b)).eraseReps

/-- Does the name end a chain? -/
def isBuiltIn (o : Options U) (name : String) : Bool := o.builtIns.contains name

def withLayout (o : Options U) (layout : Layout) : Options U := { o with layout }

/-- Adds names that end a chain. -/
def withBuiltIns (o : Options U) (names : List String) : Options U :=
  { o with builtIns := nameSet (o.builtIns ++ names) }

def withMode (o : Options U) (mode : Mode) : Options U := { o with mode }

def withBaseUrl (o : Options U) (url : U) : Options U := { o with baseUrl := some url }

def withMaxDepth (o : Options U) (maxDepth : Nat) : Options U := { o with maxDepth }

end Options

/-! ### As values -/

namespace Setting

/-- The fields of an object, or of an array that gives their values in order. -/
def fields? (names : List String) : Json → Option (Fields Json)
  | .obj fields => some fields
  | .arr items => if items.length ≤ names.length then some (names.zip items) else none
  | _ => none

/-- A field's value; a missing field has the given one, and another is read. -/
def field? {α : Type} (fields : Fields Json) (name : String) (missing : α)
    (read : Json → Option α) : Option α :=
  match Fields.find? fields name with
  | none => some missing
  | some v => read v

def strings? (v : Json) : Option (List String) := v.arr?.bind fun items => items.mapM Json.str?

def url? {U : Type} [Urls U] : Json → Option (Option U)
  | .null => some none
  | .str s => (Urls.join none s).toOption.map some
  | _ => none

def count? : Json → Option Nat
  | .num (.int n _) => if 0 ≤ n then some n.toNat else none
  | _ => none

end Setting

namespace Layout

open Setting in
def ofJson? (v : Json) : Option Layout := do
  let fields ← fields? ["name", "extend", "content", "keyed"] v
  let name ← field? fields "name" standard.name Json.str?
  let extend ← field? fields "extend" standard.extend Json.str?
  let content ← field? fields "content" standard.content Json.str?
  let keyed ← field? fields "keyed" standard.keyed strings?
  some ⟨name, extend, content, keyed⟩

def toJson (l : Layout) : Json :=
  .obj [("name", .str l.name), ("extend", .str l.extend), ("content", .str l.content),
    ("keyed", .arr (l.keyed.map .str))]

end Layout

namespace Options

variable {U : Type} [Urls U]

open Setting in
def ofJson? (v : Json) : Option (Options U) := do
  let fields ← fields? ["layout", "built_ins", "mode", "base_url", "max_depth"] v
  let usual : Options U := .standard
  let layout ← field? fields "layout" usual.layout Layout.ofJson?
  let builtIns ← field? fields "built_ins" usual.builtIns strings?
  let mode ← field? fields "mode" usual.mode Mode.ofJson?
  let baseUrl ← field? fields "base_url" usual.baseUrl url?
  let maxDepth ← field? fields "max_depth" usual.maxDepth count?
  some ⟨layout, nameSet builtIns, mode, baseUrl, maxDepth⟩

/-- The depth as a number; one that is out of range is null. -/
def depthJson (n : Nat) : Json :=
  match Number.ofInt? n with
  | some number => .num number
  | none => .null

def toJson (o : Options U) : Json :=
  .obj [("layout", o.layout.toJson), ("built_ins", .arr (o.builtIns.map .str)),
    ("mode", o.mode.toJson),
    ("base_url", match o.baseUrl with
      | some url => .str (Urls.text url)
      | none => .null),
    ("max_depth", depthJson o.maxDepth)]

end Options

end Dossier
