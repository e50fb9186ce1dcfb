import Retrieval.Settings.Value

namespace Retrieval.Settings

inductive Step where
  | member (name : String)
  /-- An item of a list, counted from the end if the index is negative. -/
  | item (index : Int)
  deriving DecidableEq, Repr

abbrev Path := List Step

namespace Path

def isNameChar (char : Char) : Bool :=
  char.isAlphanum || char = ' ' || char = '_' || char = '-'

def name? (chars : List Char) : Option (Step × List Char) :=
  match chars.takeWhile isNameChar with
  | [] => none
  | name => some (.member (String.ofList name), chars.dropWhile isNameChar)

def isGap (char : Char) : Bool :=
  char = ' ' || char = '\t'

def index? (chars : List Char) : Option (Step × List Char) :=
  let chars := chars.dropWhile isGap
  let (negative, digits) := match chars with
    | '-' :: rest => (true, rest)
    | rest => (false, rest)
  match digits.takeWhile Char.isDigit, (digits.dropWhile Char.isDigit).dropWhile isGap with
  | [], _ => none
  | digits, ']' :: rest =>
      let size : Int := Decimal.naturalOf digits
      let index := if negative then -size else size
      if Decimal.isSigned64 index then some (.item index, rest) else none
  | _, _ => none

def steps? : Nat → List Char → Option Path
  | _, [] => some []
  | fuel + 1, '.' :: rest => do
      let (step, rest) ← name? rest
      return step :: (← steps? fuel rest)
  | fuel + 1, '[' :: rest => do
      let (step, rest) ← index? rest
      return step :: (← steps? fuel rest)
  | _, _ => none

/-- The path that a key stands for. A key that is no path is a name as it is. -/
def ofKey (key : String) : Path :=
  let path := do
    let (first, rest) ← name? key.toList
    return first :: (← steps? rest.length rest)
  path.getD [.member key]

end Path

end Retrieval.Settings
