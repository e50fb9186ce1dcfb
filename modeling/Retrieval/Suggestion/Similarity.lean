import Retrieval.Encoded
import Retrieval.Text.Blank
import Retrieval.Text.LowerCase
import Retrieval.Text.Naming

/-!
Which texts a prefix finds. A text is found if it begins with the prefix in lower case, or if few
enough edits turn one of its beginnings into the prefix.
-/

namespace Retrieval.Suggestion

open Encoded

inductive Similarity where
  | uniform
  | editDistance
  deriving DecidableEq, Repr, Inhabited

namespace Similarity

def name : Similarity → String
  | uniform => "uniform"
  | editDistance => "edit_distance"

def choices : List Similarity := [uniform, editDistance]

def ofName? (name : String) : Option Similarity :=
  Text.named? choices Similarity.name name

def read? [Encoded ν] (value : ν) : Option Similarity := do
  ofName? (← choice? (choices.map Similarity.name) value)

/-- The place of a found text in the ranking; lower is better. -/
def rank (similarity : Similarity) (edits : Nat) : Nat :=
  match similarity with
  | uniform => 0
  | editDistance => edits

def scoreOfRank (rank : Nat) : Float :=
  1 / (1 + rank.toFloat)

end Similarity

/-- The cells of a row after its first. Each cell is the least of three: the one up and to the left
with a substitution unless the characters agree, the one to the left with an insertion, and the one
above with a deletion. -/
def rowTail [DecidableEq α] (symbol : α) (left : Nat) : List α → List Nat → List Nat
  | char :: chars, corner :: above :: row =>
      let cell :=
        min (min (corner + if symbol = char then 0 else 1) (left + 1)) (above + 1)
      cell :: rowTail symbol cell chars (above :: row)
  | _, _ => []

/-- The distances of a pattern to the beginnings of a text, given those of the pattern without its
last symbol. -/
def nextRow [DecidableEq α] (text : List α) (row : List Nat) (symbol : α) : List Nat :=
  match row with
  | [] => []
  | first :: _ => (first + 1) :: rowTail symbol (first + 1) text row

/-- The distances of a pattern to all beginnings of a text, the empty one first. -/
def distances [DecidableEq α] (pattern text : List α) : List Nat :=
  pattern.foldl (nextRow text) (List.range (text.length + 1))

/-- The least number of insertions, deletions and substitutions that turn some beginning of the
text into the pattern. -/
def prefixDistance [DecidableEq α] (pattern text : List α) : Nat :=
  (distances pattern text).min?.getD pattern.length

structure PrefixMatcher where
  wanted : List Char
  maxEdits : Nat
  fuzzy : Bool
  similarity : Similarity
  deriving DecidableEq, Repr

namespace PrefixMatcher

/-- A prefix is trimmed and lowered. One that is shorter than `fuzzyMinLength` allows no edits. -/
def ofPrefix (text : String) (maxEdits fuzzyMinLength : Nat) (similarity : Similarity) :
    PrefixMatcher :=
  let wanted := Text.lowerChars (Text.trimChars text.toList)
  ⟨wanted, maxEdits, 0 < maxEdits && fuzzyMinLength ≤ wanted.length, similarity⟩

def edits? (matcher : PrefixMatcher) (candidate : String) : Option Nat :=
  let candidate := Text.lowerChars candidate.toList
  if matcher.fuzzy then
    let distance := prefixDistance matcher.wanted candidate
    if distance ≤ matcher.maxEdits then some distance else none
  else if matcher.wanted.isPrefixOf candidate then
    some 0
  else
    none

def rank? (matcher : PrefixMatcher) (candidate : String) : Option Nat :=
  (matcher.edits? candidate).map matcher.similarity.rank

def score? (matcher : PrefixMatcher) (candidate : String) : Option Float :=
  (matcher.rank? candidate).map Similarity.scoreOfRank

end PrefixMatcher

end Retrieval.Suggestion
