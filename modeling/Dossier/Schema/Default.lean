import Dossier.Schema.Registry

/-!
# Schema — default records

A default record gives each required property its zero and leaves the optional ones out.  An array
is empty at first; of several variants the first that has a zero gives it.  A nested entity's zero
is its own default record, but a reference has none while an entity of that name is being built
around it, or when the name is not registered.  A property for which no variant has a zero falls
back to the empty object.

Each reference that is followed takes one more registered name into the names being built, so no
more references are followed inside one another than there are registered schemas; that number
bounds the recursion.
-/

namespace Dossier

namespace Default

variable (entered : List String → String → Option (Fields Json))

mutual

/-- The zero of a variant, inside entities of the names `building`.  `entered` gives the default
record of a reference. -/
def ofVariant (building : List String) : Variant → Option Json
  | .string => some (.str "")
  | .number => some .zero
  | .integer => some .zero
  | .boolean => some (.bool false)
  | .json => some .null
  | .null => some .null
  | .absent => some .null
  | .enumeration _ members => some (members.headD .null)
  | .entity schema => some (.obj (ofSchema building schema))
  | .reference name => (entered building name).map .obj

/-- The first zero among the variants of a value that is there. -/
def ofVariants (building : List String) : List Variant → Option Json
  | [] => none
  | w :: rest =>
    if w.isAbsent then ofVariants building rest
    else match ofVariant building w with
      | some v => some v
      | none => ofVariants building rest

/-- The value of a property in a default record, if it has one there. -/
def ofProperty (building : List String) : Property → Option Json
  | .mk _ variants isArray =>
    if variants.any Variant.isAbsent then none
    else if isArray then some (.arr [])
    else some ((ofVariants building variants).getD (.obj []))

/-- The entries of the properties in a default record. -/
def ofProperties (building : List String) : List Property → List (String × Json)
  | [] => []
  | p :: rest =>
    match ofProperty building p with
    | some v => (p.name, v) :: ofProperties building rest
    | none => ofProperties building rest

/-- The default record of a schema. -/
def ofSchema (building : List String) : Schema → List (String × Json)
  | .mk _ name properties => ofProperties (name :: building) properties

end

/-- The default record of the entity a reference names, unless the name is not registered or such
an entity is being built.  The first argument bounds how many references may be followed. -/
def ofReference (registry : Registry) : Nat → List String → String → Option (Fields Json)
  | 0, _, _ => none
  | depth + 1, building, name =>
    if name ∈ building then none
    else (registry.get? name).map fun s => ofSchema (ofReference registry depth) building s

end Default

namespace Schema

/-- The record that gives each required property its zero. -/
def defaultFields (registry : Registry) (s : Schema) : Fields Json :=
  Default.ofSchema (Default.ofReference registry registry.size) [] s

/-- The default record as a value. -/
def defaultRecord (registry : Registry) (s : Schema) : Json := .obj (s.defaultFields registry)

end Schema

end Dossier
