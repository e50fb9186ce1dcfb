import Retrieval.Text.Alphanumeric
import Retrieval.Text.LowerCase

namespace Retrieval.Text

/-- The parts between the characters that `breaks` picks out; there is always one more part than
there are breaks. -/
def splitAtEach (breaks : α → Bool) : List α → List (List α)
  | [] => [[]]
  | item :: rest =>
      if breaks item then
        [] :: splitAtEach breaks rest
      else
        match splitAtEach breaks rest with
        | [] => [[item]]
        | part :: parts => (item :: part) :: parts

def wordRuns (chars : List Char) : List (List Char) :=
  (splitAtEach (fun char => !isAlphanumeric char) chars).filter fun run => !run.isEmpty

/-- The words of a text. Each run is lowered by itself, so a capital sigma ends a word where its
run ends. -/
def words (text : String) : List (List Char) :=
  (wordRuns text.toList).map lowerChars

end Retrieval.Text
