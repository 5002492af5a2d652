import Dossier.Url.Basic

/-!
# Url — the segments of a path

A path is read segment by segment on top of the segments already there.  The segment `.` is left
out and `..` takes the segment before it away; either at the end leaves an empty segment behind.

A letter and a colon, or a bar in its place, name a drive, which `..` does not take away.  In `file`
URLs a drive that stands first is written with a colon.

The text may still have its line breaks in it, which belong to no segment.
-/

namespace Dossier.UrlPath

/-- Tabs and line ends, which may stand anywhere in a URL and are left out. -/
def isBreak (c : Char) : Bool := c = '\t' || c = '\n' || c = '\r'

def withoutBreaks (cs : List Char) : List Char := cs.filter fun c => ! isBreak c

/-- What follows the slash that a text starts with. -/
def afterSlash? (kind : SchemeKind) : List Char → Option (List Char)
  | [] => none
  | c :: rest =>
    if isBreak c then afterSlash? kind rest else if kind.isSlash c then some rest else none

/-- A dot, written as it is or encoded: how many of them the segment consists of, if of one or
two. -/
def dots (segment : List Char) : Nat :=
  let s := String.ofList (segment.map Char.toLower)
  if s = "." ∨ s = "%2e" then 1
  else if s = ".." ∨ s = ".%2e" ∨ s = "%2e." ∨ s = "%2e%2e" then 2
  else 0

/-- Is the segment a letter followed by a colon or a bar? -/
def isDrive : List Char → Bool
  | [c, mark] => c.isAlpha && (mark = ':' || mark = '|')
  | _ => false

/-- Does the text start with a segment that names a drive? -/
def startsWithDrive (cs : List Char) : Bool :=
  isDrive (cs.take 2) && match cs.drop 2 with
    | [] => true
    | c :: _ => c = '/' || c = '\\' || c = '?' || c = '#'

/-- The segment that names a drive, with a colon. -/
def normalDrive : List Char → List Char
  | [c, _] => [c, ':']
  | cs => cs

/-- Is the segment a drive's name with a colon? -/
def isNormalDrive (segment : String) : Bool :=
  isDrive segment.toList && segment.toList.getLast? = some ':'

/-- The two parts of a segment that a line break divides after a drive's name with a colon. -/
def brokenDrive? (segment : List Char) : Option (List Char × List Char) :=
  match segment.dropWhile isBreak with
  | [] => none
  | c :: rest =>
    match rest.dropWhile isBreak with
    | ':' :: mark :: rest =>
      let more := withoutBreaks rest
      if c.isAlpha ∧ isBreak mark ∧ more ≠ [] then some ([c, ':'], more) else none
    | _ => none

/-- The segment as it stands in the path. -/
def written (segment : List Char) : String :=
  String.ofList (Percent.encode Percent.inPath segment)

/-- The segments gone along so far, last first. -/
structure Trail where
  segments : List String
  /-- Was the first segment of a `file` URL a drive's name? -/
  startsOnDrive : Bool

namespace Trail

/-- Takes the last segment away, unless it names a drive. -/
def back (t : Trail) : Trail :=
  match t.segments with
  | [] => t
  | s :: rest => if startsWithDrive s.toList then t else { t with segments := rest }

/-- Goes on to a segment.  The first one of a `file` URL may name a drive, and then a line break
ends it as a slash does. -/
def enter (kind : SchemeKind) (t : Trail) (segment : List Char) : Trail :=
  let text := withoutBreaks segment
  if kind = .file ∧ t.segments = [] then
    if isDrive text then ⟨[String.ofList (normalDrive text)], true⟩
    else match brokenDrive? segment with
      | some (drive, more) => { t with segments := [written more, String.ofList drive] }
      | none => { t with segments := [written text] }
  else { t with segments := written text :: t.segments }

/-- Leaves an empty segment at the end. -/
def close (t : Trail) : Trail := { t with segments := "" :: t.segments }

/-- Goes along the segments. -/
def walk (kind : SchemeKind) (t : Trail) : List (List Char) → Trail
  | [] => t
  | [segment] =>
    match dots (withoutBreaks segment) with
    | 1 => t.close
    | 2 => t.back.close
    | _ => t.enter kind segment
  | segment :: rest =>
    match dots (withoutBreaks segment) with
    | 1 => walk kind t rest
    | 2 => walk kind t.back rest
    | _ => walk kind (t.enter kind segment) rest

/-- The path gone along.  A `file` path does not start with empty segments. -/
def path (kind : SchemeKind) (t : Trail) : List String :=
  let segments := t.segments.reverse
  if kind = .file then
    match segments.dropWhile (· = "") with
    | [] => [""]
    | rest => rest
  else segments

end Trail

/-- Goes along a text, without its leading slash, on top of the given segments. -/
def follow (kind : SchemeKind) (segments : List String) (cs : List Char) : Trail :=
  Trail.walk kind ⟨segments.reverse, false⟩ (Host.splitWhere kind.isSlash cs)

/-- The path of a text, without its leading slash, on top of the given segments. -/
def extend (kind : SchemeKind) (segments : List String) (cs : List Char) : List String :=
  (follow kind segments cs).path kind

/-- The path of a relative text on top of a `file` path, whose last segment it replaces.  A drive is
not replaced: as the only segment it stays, and behind others the text goes on in its very
segment, unless with a dot segment. -/
def extendFile (segments : List String) (cs : List Char) : List String :=
  match segments.getLast? with
  | none => extend .file [] cs
  | some s =>
    if ! isNormalDrive s then extend .file segments.dropLast cs
    else if segments.length = 1
        ∨ dots (withoutBreaks (cs.takeWhile fun c => ! SchemeKind.file.isSlash c)) ≠ 0 then
      extend .file segments cs
    else extend .file segments.dropLast (s.toList ++ cs)

end Dossier.UrlPath
