import Retrieval.Decimal.Word
import Retrieval.Operator
import Retrieval.Text.Blank

/-!
Pieces of query text and their joining into groups. Parentheses stand around a group exactly when
it joins at least two parts; how many parts were declared beforehand does not show.
-/

namespace Retrieval

structure Fragment where
  text : String
  operator : Operator
  deriving DecidableEq, Repr

namespace Fragment

def isBlank (fragment : Fragment) : Bool :=
  Text.isBlank fragment.text

/-- Parts to be joined by an operator. No part is blank, and none has blanks at its ends. -/
structure Grouping where
  operator : Operator
  parts : List String
  deriving DecidableEq, Repr

structure ClosedGroup where
  operator : Operator
  text : String
  deriving DecidableEq, Repr

namespace Grouping

def undeclared (operator : Operator) : Grouping :=
  ⟨operator, []⟩

def partSize : Nat := 24

def roomLimit : Nat := Decimal.bound63 - 1

/-- A group with room for a declared number of parts. The declaration reserves the room and has no
other effect; a number of parts that no room suffices for cannot be declared. -/
def declared? (operator : Operator) (count : Nat) : Option Grouping :=
  if count * partSize ≤ roomLimit then some (undeclared operator) else none

/-- Adds a part, trimmed. A blank part adds nothing. -/
def append (grouping : Grouping) (part : String) : Grouping :=
  if Text.isBlank part then
    grouping
  else
    { grouping with parts := grouping.parts ++ [Text.trim part] }

def appendAll (grouping : Grouping) (parts : List String) : Grouping :=
  parts.foldl append grouping

def close (grouping : Grouping) : ClosedGroup :=
  let joined := grouping.operator.separator.intercalate grouping.parts
  ⟨grouping.operator, if 1 < grouping.parts.length then "(" ++ joined ++ ")" else joined⟩

end Grouping

namespace ClosedGroup

/-- Adds free text after the group, trimmed and set off by one blank. Blank text adds nothing. -/
def freeText (group : ClosedGroup) (text : String) : ClosedGroup :=
  if Text.isBlank text then
    group
  else
    let gap := if group.text.isEmpty then "" else " "
    { group with text := group.text ++ gap ++ Text.trim text }

def build (group : ClosedGroup) : Fragment :=
  ⟨group.text, group.operator⟩

end ClosedGroup

end Fragment

end Retrieval
