import Dossier.Text.CaseTable

/-!
# Text — letter case

Upper and lower case of a text by the full mappings of Unicode, which may turn one character into
several.  A capital sigma at the end of a word becomes the final sigma.
-/

namespace Dossier.Text

/-- Does the run cover the character with this code? -/
def CaseRun.covers (r : CaseRun) (n : Nat) : Bool :=
  r.first ≤ n && n ≤ r.last && (n - r.first) % r.step = 0

/-- The counterpart of a character by a list of runs; itself when none covers it. -/
def mapRun (runs : List CaseRun) (c : Char) : Char :=
  match runs.find? (·.covers c.toNat) with
  | some r => Char.ofNat (c.toNat + r.offset).toNat
  | none => c

/-- The upper case of a character. -/
def upperChar (c : Char) : List Char :=
  match upperSequences.lookup c.toNat with
  | some codes => codes.map Char.ofNat
  | none => [mapRun upperRuns c]

/-- The lower case of a character that stands by itself. -/
def lowerChar (c : Char) : List Char :=
  match lowerSequences.lookup c.toNat with
  | some codes => codes.map Char.ofNat
  | none => [mapRun lowerRuns c]

/-- Is the code in one of the ranges? -/
def inRanges (ranges : List (Nat × Nat)) (n : Nat) : Bool :=
  ranges.any fun (first, last) => first ≤ n && n ≤ last

/-- Is the first character that case rules do not pass over a cased one? -/
def startsCased (cs : List Char) : Bool :=
  match cs.dropWhile (fun c => inRanges caseIgnorableRanges c.toNat) with
  | [] => false
  | c :: _ => inRanges casedRanges c.toNat

/-- The upper case of a text. -/
def upper (cs : List Char) : List Char := cs.flatMap upperChar

/-- The lower case of a text that follows the characters `before`, last first. -/
def lowerAfter (before : List Char) : List Char → List Char
  | [] => []
  | c :: rest =>
    (if c = 'Σ' then
      (if startsCased before && ! startsCased rest then ['ς'] else ['σ'])
    else lowerChar c) ++ lowerAfter (c :: before) rest

/-- The lower case of a text. -/
def lower (cs : List Char) : List Char := lowerAfter [] cs

/-- Has the text two cases, being in its upper one? -/
def isUpper (cs : List Char) : Bool := upper cs ≠ lower cs && cs = upper cs

/-- Has the text two cases, being in its lower one? -/
def isLower (cs : List Char) : Bool := upper cs ≠ lower cs && cs = lower cs

/-- Lower case of the letters of ASCII alone. -/
def asciiLower (cs : List Char) : List Char := cs.map Char.toLower

end Dossier.Text
