import Dossier.Url.Kind
import Dossier.Url.Path
import Dossier.Text.Blank

/-!
# Url — reading a URL

A text is read as an absolute URL, or relative to a base.  Control characters and spaces at the ends
are left out first.  What is left divides into a main part, a query and a fragment; the main part
starts with a scheme, or is relative to the base.  Tabs and line ends are left out anywhere, though
in the path of a `file` URL one may end the name of a drive.

* An absolute text has an authority after its double slash; the schemes of the web need no slashes.
* A relative text that starts with two slashes keeps the base's scheme, with one slash the base's
  authority too, and otherwise goes on in the folder of the base's path.

So URLs are a kind of URLs (`Urls`), as far as their hosts are named in ASCII.
-/

namespace Dossier.Url

/-- A text cut at its query and fragment. -/
structure Reference where
  /-- What comes first, with its line breaks. -/
  main : List Char
  query : Option (List Char)
  fragment : Option (List Char)

/-- What stands before a character, and what after it if it occurs. -/
def cutAt (mark : Char) (cs : List Char) : List Char × Option (List Char) :=
  (cs.takeWhile (· ≠ mark), (cs.dropWhile (· ≠ mark)).tail?)

/-- Leaves out what may surround a URL, and cuts the rest. -/
def Reference.ofText (text : String) : Reference :=
  let cs := Text.stripped (fun c => c.toNat ≤ 0x20) text.toList
  let (rest, fragment) := cutAt '#' cs
  let (main, query) := cutAt '?' rest
  ⟨main, query.map UrlPath.withoutBreaks, fragment.map UrlPath.withoutBreaks⟩

/-- The scheme in lower case, and what stands after its colon. -/
def scheme? (cs : List Char) : Option (String × List Char) :=
  let inScheme (c : Char) : Bool := c.isAlphanum || c = '+' || c = '-' || c = '.'
  match cs.span fun c => inScheme c || UrlPath.isBreak c with
  | (name, ':' :: rest) =>
    let name := UrlPath.withoutBreaks name
    if name.head?.any Char.isAlpha then some (String.ofList (name.map Char.toLower), rest) else none
  | _ => none

def writtenQuery (scheme : String) (query : Option (List Char)) : Option String :=
  let isEncoded := if (SchemeKind.ofScheme scheme).isSpecial then Percent.inSpecialQuery
    else Percent.inQuery
  query.map fun cs => String.ofList (Percent.encode isEncoded cs)

def writtenFragment (fragment : Option (List Char)) : Option String :=
  fragment.map fun cs => String.ofList (Percent.encode Percent.inFragment cs)

/-! ### Authorities -/

def writtenUserInfo (cs : List Char) : String :=
  String.ofList (Percent.encode Percent.inUserInfo cs)

/-- The user name and the password, which is left out when it is empty. -/
def userInfo (cs : List Char) : String × Option String :=
  let (name, password) := cutAt ':' cs
  (writtenUserInfo name, match password with
    | none => none
    | some [] => none
    | some p => some (writtenUserInfo p))

/-- What stands before the last `@`, and what after it. -/
def cutAtLastAt (cs : List Char) : Option (List Char) × List Char :=
  if '@' ∈ cs then
    ((cs.reverse.dropWhile (· ≠ '@')).tail?.map List.reverse,
      (cs.reverse.takeWhile (· ≠ '@')).reverse)
  else (none, cs)

/-- The host, and what stands from its colon on: colons between brackets belong to the host. -/
def cutHost (inBrackets : Bool) : List Char → List Char × List Char
  | [] => ([], [])
  | c :: rest =>
    if c = ':' ∧ ! inBrackets then ([], c :: rest)
    else
      let (host, after) := cutHost (if c = '[' then true else if c = ']' then false else inBrackets) rest
      (c :: host, after)

/-- The number after the host's colon, unless it is the scheme's own.  A backslash may follow. -/
def readPortNumber (scheme : String) (cs : List Char) : Except UrlError (Option Nat × List Char) :=
  let (digits, rest) := cs.span Char.isDigit
  let n := (Host.number? 10 digits).getD 0
  if 65535 < n ∨ rest.head?.any (· ≠ '\\') then .error .invalidPortNumber
  else .ok (if digits = [] ∨ defaultPortNumber? scheme = some n then none else some n, rest)

/-- The authority of a text up to a slash, and what is left of the text.  The host may be empty
where the scheme is not special and nothing but slashes surrounds it; `followed` tells whether
anything comes after the text. -/
def readAuthority (scheme : String) (followed : Bool) (cs : List Char) :
    Except UrlError (Authority × List Char) := do
  let kind := SchemeKind.ofScheme scheme
  let (user, rest) := cutAtLastAt cs
  let (username, password) := userInfo (user.getD [])
  let (hostText, afterHost) := cutHost false rest
  let needed := kind.isSpecial || afterHost ≠ [] || username ≠ "" || password.isSome
    || (user = some [] && followed)
  if hostText = [] ∧ needed then .error .emptyHost
  else do
    let host ← if kind.isSpecial then Host.ofDomain hostText else Host.ofName hostText
    let (number, rest) ← readPortNumber scheme afterHost.tail
    .ok (⟨username, password, host, number⟩, rest)

/-! ### Whole URLs -/

/-- A URL with the given scheme, authority and segments, and the query and fragment of a text. -/
def assemble (scheme : String) (authority : Option Authority) (segments : List String)
    (r : Reference) : Url :=
  ⟨scheme, authority, .listed segments, writtenQuery scheme r.query, writtenFragment r.fragment⟩

/-- A text that goes on after the double slash. -/
def ofAuthority (scheme : String) (cs : List Char) (r : Reference) : Except UrlError Url := do
  let kind := SchemeKind.ofScheme scheme
  let (before, path) := cs.span fun c => ! kind.isSlash c
  let followed := path ≠ [] || r.query.isSome || r.fragment.isSome
  let (a, rest) ← readAuthority scheme followed before
  let segments := if rest ≠ [] then UrlPath.extend kind [] (rest ++ path)
    else if kind = SchemeKind.other ∧ path = [] then []
    else UrlPath.extend kind [] path.tail
  .ok (assemble scheme (some a) segments r)

/-- The segments of a path; a flat path has none. -/
def segmentsOf : UrlPath → List String
  | .flat _ => []
  | .listed segments => segments

/-- A text without a scheme of its own, relative to a base other than a `file`. -/
def ofRelative (base : Url) (main : List Char) (r : Reference) : Except UrlError Url :=
  let kind := SchemeKind.ofScheme base.scheme
  let slashes := main.takeWhile fun c => c = '/' || c = '\\'
  if main = [] then
    let query := if r.query.isSome then writtenQuery base.scheme r.query else base.query
    .ok { base with query, fragment := writtenFragment r.fragment }
  else if 2 ≤ slashes.length then
    ofAuthority base.scheme (main.drop (if slashes.take 2 = ['/', '/'] then 2 else slashes.length)) r
  else
    let (folder, rest) := if slashes = [] then
        ((segmentsOf base.path).dropLast, main)
      else ([], main.tail)
    .ok (assemble base.scheme base.authority (UrlPath.extend kind folder rest) r)

/-! ### Files -/

/-- The authority of a file on the given host. -/
def fileAuthority (host : Host) : Authority := ⟨"", none, host, none⟩

/-- The authority of a file on this machine. -/
def localFile : Authority := fileAuthority (.name "")

/-- The host of a `file` URL; this machine has the empty name. -/
def fileHost (cs : List Char) : Except UrlError Host :=
  if cs = [] then .ok (.name "")
  else (Host.ofDomain cs).map fun host => if host = .name "localhost" then .name "" else host

/-- A `file` text that goes on after the double slash.  A path that names a drive has no host; on
this machine the path starts behind an empty segment. -/
def ofFileHost (cs : List Char) (r : Reference) : Except UrlError Url := do
  let (before, rest) := cs.span fun c => ! SchemeKind.file.isSlash c
  let before := UrlPath.withoutBreaks before
  if UrlPath.isDrive before then
    .ok (assemble "file" (some localFile) (UrlPath.extend .file [] cs) r)
  else do
    let host ← fileHost before
    let trail := UrlPath.follow .file (if host = .name "" then [""] else []) rest.tail
    let host := if trail.startsOnDrive then .name "" else host
    .ok (assemble "file" (some (fileAuthority host)) (trail.path .file) r)

/-- A `file` text that goes on after a single slash. -/
def ofFileRoot (base : Option Url) (cs : List Char) (r : Reference) : Url :=
  match base with
  | none => assemble "file" (some localFile) (UrlPath.extend .file [] cs) r
  | some b =>
    let drive := (segmentsOf b.path).take 1
    if UrlPath.startsWithDrive (UrlPath.withoutBreaks cs) then
      assemble "file" (some localFile) (UrlPath.extend .file [] cs) r
    else if drive.any UrlPath.isNormalDrive then
      assemble "file" (some localFile) (UrlPath.extend .file drive cs) r
    else assemble "file" b.authority (UrlPath.extend .file [] cs) r

/-- A `file` text that starts without a slash. -/
def ofFileRelative (base : Option Url) (cs : List Char) (r : Reference) : Url :=
  match base with
  | none => assemble "file" (some localFile) (UrlPath.extend .file [] cs) r
  | some b =>
    if UrlPath.withoutBreaks cs = [] then
      let query := if r.query.isSome then writtenQuery "file" r.query else b.query
      { b with query, fragment := writtenFragment r.fragment }
    else if UrlPath.startsWithDrive (UrlPath.withoutBreaks cs) then
      assemble "file" (some localFile) (UrlPath.extend .file [] cs) r
    else assemble "file" b.authority (UrlPath.extendFile (segmentsOf b.path) cs) r

/-- A `file` text, perhaps relative to the URL of another file. -/
def ofFile (base : Option Url) (main : List Char) (r : Reference) : Except UrlError Url :=
  match UrlPath.afterSlash? .file main with
  | none => .ok (ofFileRelative base main r)
  | some rest =>
    match UrlPath.afterSlash? .file rest with
    | none => .ok (ofFileRoot base rest r)
    | some rest => ofFileHost rest r

/-! ### Reading -/

/-- A text with a scheme of its own, which is not `file`. -/
def ofAbsolute (base : Option Url) (scheme : String) (main : List Char) (r : Reference) :
    Except UrlError Url :=
  if (SchemeKind.ofScheme scheme).isSpecial then
    let (slashes, rest) := main.span fun c => c = '/' || c = '\\'
    match base with
    | some b => if slashes.length < 2 then ofRelative b main r else ofAuthority scheme rest r
    | none => ofAuthority scheme rest r
  else
    match main with
    | '/' :: '/' :: rest => ofAuthority scheme rest r
    | '/' :: rest => .ok (assemble scheme none (UrlPath.extend .other [] rest) r)
    | main =>
      .ok ⟨scheme, none, .flat (String.ofList (Percent.encode Percent.inControls main)),
        writtenQuery scheme r.query, writtenFragment r.fragment⟩

/-- Reads a text as a URL, relative to the base if there is one. -/
def parse (base : Option Url) (text : String) : Except UrlError Url :=
  let r := Reference.ofText text
  match scheme? r.main, base with
  | some (scheme, rest), base =>
    let sameScheme := base.filter fun b => b.scheme = scheme
    if scheme = "file" then ofFile sameScheme rest r
    else ofAbsolute sameScheme scheme (UrlPath.withoutBreaks rest) r
  | none, none => .error .relativeWithoutBase
  | none, some b =>
    let main := UrlPath.withoutBreaks r.main
    if main = [] ∧ r.query = none ∧ r.fragment.isSome then
      .ok { b with fragment := writtenFragment r.fragment }
    else match b.path with
      | .flat _ => .error .relativeToFlatBase
      | .listed _ =>
        if b.scheme = "file" then ofFile (some b) r.main r else ofRelative b main r

/-- The kind of URLs that programs are run with. -/
instance : Urls Url := ⟨text, parse⟩

end Dossier.Url
