import Dossier.Text.ClusterTable
import Dossier.Text.LetterCase

/-!
# Text — clusters

What a reader takes for one character: a letter with the marks on it, a syllable, a pictograph put
together from several.

Whether two neighbouring characters belong together follows from the roles they play, and in three
cases also from what stands before them: pictographs are joined by a joiner that follows a
pictograph, flags consist of two letters each, and consonants form a conjunct when a linker stands
between them.

* `flatten_clusters`: the clusters put together again are the text.
-/

namespace Dossier.Text

/-- The part a character plays in a cluster.  The last six are those of the Korean script and of
letters like it. -/
inductive Role where
  | other
  /-- A control, which stands alone. -/
  | control
  /-- A mark on the character before it. -/
  | mark
  /-- The zero-width joiner, a mark which also joins pictographs. -/
  | joiner
  /-- A mark that takes up room. -/
  | spacingMark
  /-- A sign before the character it belongs to. -/
  | leadingSign
  /-- A consonant that can be linked to another. -/
  | consonant
  | pictograph
  /-- One of the two letters that make a flag. -/
  | flagLetter
  | initial
  | vowel
  | final
  /-- A syllable without a final consonant. -/
  | openSyllable
  /-- A syllable with a final consonant. -/
  | closedSyllable
  deriving DecidableEq

/-- The role of a character. -/
def role (c : Char) : Role :=
  let n := c.toNat
  if n < 0x7F then if n < 0x20 then .control else .other
  else if n = 0x200D then .joiner
  else if inRanges markRanges n then .mark
  else if inRanges spacingMarkRanges n then .spacingMark
  else if inRanges controlRanges n then .control
  else if inRanges leadingSignRanges n then .leadingSign
  else if inRanges consonantRanges n then .consonant
  else if inRanges pictographRanges n then .pictograph
  else if inRanges [(0x1F1E6, 0x1F1FF)] n then .flagLetter
  else if inRanges [(0x1100, 0x115F), (0xA960, 0xA97C)] n then .initial
  else if inRanges [(0x1160, 0x11A7), (0xD7B0, 0xD7C6), (0x16D63, 0x16D63), (0x16D67, 0x16D6A)] n
  then .vowel
  else if inRanges [(0x11A8, 0x11FF), (0xD7CB, 0xD7FB)] n then .final
  else if inRanges [(0xAC00, 0xD7A3)] n then
    if (n - 0xAC00) % 28 = 0 then .openSyllable else .closedSyllable
  else .other

/-- Does the text, given last character first, end in a pictograph, perhaps with marks on it? -/
def endsInPictograph (before : List Char) : Bool :=
  ((before.dropWhile fun c => role c = .mark).head?.map role) = some .pictograph

/-- Does the text, given last character first, end in the letters of half a flag? -/
def endsInHalfFlag (before : List Char) : Bool :=
  (before.takeWhile fun c => role c = .flagLetter).length % 2 = 1

/-- Is the character a mark inside a conjunct? The non-joiner keeps consonants apart. -/
def isInConjunct (c : Char) : Bool :=
  role c = .joiner || (role c = .mark && c.toNat ≠ 0x200C)

/-- Does the text, given last character first, end in a consonant that is linked to the next? -/
def endsLinked (before : List Char) : Bool :=
  ((before.takeWhile isInConjunct).any fun c => inRanges conjunctLinkerRanges c.toNat)
    && ((before.dropWhile isInConjunct).head?.map role) = some .consonant

/-- Does the character belong together with the one before it, the text up to there being given
last character first? -/
def joins (before : List Char) (d : Char) : Bool :=
  match before with
  | [] => false
  | c :: earlier =>
    match role c, role d with
    | .control, _ => c = '\r' && d = '\n'
    | _, .control => false
    | .initial, .initial => true
    | .initial, .vowel => true
    | .initial, .openSyllable => true
    | .initial, .closedSyllable => true
    | .openSyllable, .vowel => true
    | .openSyllable, .final => true
    | .vowel, .vowel => true
    | .vowel, .final => true
    | .closedSyllable, .final => true
    | .final, .final => true
    | _, .mark => true
    | _, .joiner => true
    | _, .spacingMark => true
    | .leadingSign, _ => true
    | .joiner, .pictograph => endsInPictograph earlier
    | .flagLetter, .flagLetter => endsInHalfFlag before
    | _, .consonant => endsLinked before
    | _, _ => false

/-- The clusters of a text that follows the characters `before`, last first. -/
def clustersAfter (before : List Char) : List Char → List (List Char)
  | [] => []
  | c :: rest =>
    match rest.head?, clustersAfter (c :: before) rest with
    | some d, cluster :: more =>
      if joins (c :: before) d then (c :: cluster) :: more else [c] :: cluster :: more
    | _, more => [c] :: more

/-- The clusters of a text. -/
def clusters (cs : List Char) : List (List Char) := clustersAfter [] cs

theorem flatten_clustersAfter (before cs : List Char) :
    (clustersAfter before cs).flatten = cs := by
  induction cs generalizing before with
  | nil => rfl
  | cons c rest ih =>
    have := ih (c :: before)
    unfold clustersAfter
    split
    · next d cluster more _ h =>
      rw [h] at this
      split <;> simpa using this
    · simpa using this

theorem flatten_clusters (cs : List Char) : (clusters cs).flatten = cs :=
  flatten_clustersAfter [] cs

end Dossier.Text
