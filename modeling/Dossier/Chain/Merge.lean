import Dossier.Chain.Layout

/-!
# Chain — merging a record onto its ancestor

The merged record has the ancestor's name and reference, the ancestor's content followed by the
child's, and the fields of both, the child's value counting.  A keyed field that is a table on both
sides is merged key by key.

A record that extends a built-in is reduced to the built-in's name and its own content and keyed
fields.
-/

namespace Dossier

/-- The items of a content field: a value that is no array counts as one item, null as none. -/
def contentItems : Option Json → List Json
  | none => []
  | some .null => []
  | some (.arr items) => items
  | some v => [v]

namespace Layout

/-- A child's field written over the ancestor's. -/
def mergeField (l : Layout) (merged : Fields Json) (field : String) (value : Json) : Fields Json :=
  if field = l.name ∨ field = l.extend ∨ field = l.content then merged
  else if l.isKeyed field then
    match Fields.find? merged field, value with
    | some (.obj base), .obj own => Fields.insert merged field (.obj (Fields.update base own))
    | _, _ => Fields.insert merged field value
  else Fields.insert merged field value

/-- The ancestor with the child's fields merged onto it. -/
def mergeOnto (l : Layout) (ancestor child : Fields Json) : Fields Json :=
  let merged := child.foldl (fun merged e => l.mergeField merged e.1 e.2) ancestor
  let inherited := Fields.find? ancestor l.content
  let own := Fields.find? child l.content
  if inherited.isSome || own.isSome then
    Fields.insert merged l.content (.arr (contentItems inherited ++ contentItems own))
  else merged

/-- A field copied from a record, if it is there. -/
def copyField (source target : Fields Json) (field : String) : Fields Json :=
  match Fields.find? source field with
  | some v => Fields.insert target field v
  | none => target

/-- What a record that extends a built-in comes to. -/
def terminal (l : Layout) (builtIn : String) (child : Fields Json) : Fields Json :=
  (l.content :: l.keyed).foldl (copyField child) [(l.name, .str builtIn)]

/-- The record merged onto its resolved ancestor.  An ancestor refers to nothing any more, except
that in an irregular layout one reduced to a built-in may still name it; then so does the merged
record, which is reduced in turn. -/
def merged (l : Layout) (ancestor record : Fields Json) : Fields Json :=
  let result := l.mergeOnto ancestor record
  match l.extendOf? result with
  | some reference => l.terminal reference result
  | none => result

end Layout

end Dossier
