import Dossier.Text.Cluster

/-!
# Text — snake case

A name is cut into words, the words are put in lower case and joined by underscores.  Underscores,
hyphens and spaces stand between words and are left out.  A word also ends

* between a lower-case and an upper-case letter,
* between a letter and a digit, either way round,
* before the last of several capitals that a lower-case letter follows.

Letters without case are neither upper nor lower, so nothing is cut at them.

This is the conversion of property names that programs are run with; what is said of properties holds
for any (`Property.aliasName`).
-/

namespace Dossier.Text.SnakeCase

/-- Does the cluster stand between words? -/
def isSeparator (cluster : List Char) : Bool :=
  cluster = ['_'] || cluster = ['-'] || cluster = [' ']

/-- Is the cluster a digit of ASCII? -/
def isDigit (cluster : List Char) : Bool := cluster.all Char.isDigit

/-- Is the cluster a letter in one of its two cases? -/
def isCased (cluster : List Char) : Bool := isUpper cluster || isLower cluster

/-- Does a word end after the cluster, given the ones that follow? -/
def endsAfter (cluster : List Char) : List (List Char) → Bool
  | [] => false
  | next :: rest =>
    (isLower cluster && isUpper next)
      || (isCased cluster && isDigit next)
      || (isDigit cluster && isCased next)
      || (isUpper cluster && isUpper next && (match rest with
        | [] => false
        | third :: _ => isLower third))

/-- The words of a row of clusters; a separator at an end leaves an empty word there. -/
def wordsOf : List (List Char) → List (List Char)
  | [] => [[]]
  | cluster :: rest =>
    if isSeparator cluster then [] :: wordsOf rest
    else if endsAfter cluster rest then cluster :: wordsOf rest
    else match wordsOf rest with
      | word :: more => (cluster ++ word) :: more
      | [] => [cluster]

/-- The words of a name. -/
def words (name : String) : List String :=
  (wordsOf (clusters name.toList)).map String.ofList

/-- The name in snake case. -/
def ofName (name : String) : String :=
  String.intercalate "_" ((words name).map fun w => String.ofList (lower w.toList))

end Dossier.Text.SnakeCase
