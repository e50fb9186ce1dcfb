import Retrieval.Decimal.Reading
import Retrieval.Directory

namespace Retrieval

/-- A value. The members of a record keep their order, and a name may occur more than once. -/
inductive Json where
  | null
  | boolean (value : Bool)
  | integer (value : Int)
  | real (value : Float)
  | text (value : String)
  | list (items : List Json)
  | record (members : List (String × Json))
  /-- Well-formed text that denotes nothing: a number beyond the finite ones, or a text with half
  of a surrogate pair. It may stand where a value is passed over. -/
  | unreadable
  deriving Inhabited

namespace Json

def ofReal (number : Float) : Json :=
  if number.isFinite then real number else null

def ofTexts (texts : List String) : Json :=
  list (texts.map text)

def ofNat (number : Nat) : Json :=
  integer number

def ofOption (encode : α → Json) : Option α → Json
  | none => null
  | some value => encode value

mutual

def depth : Json → Nat
  | list items => depthOfAll items + 1
  | record members => depthOfMembers members + 1
  | _ => 0

def depthOfAll : List Json → Nat
  | [] => 0
  | item :: rest => max item.depth (depthOfAll rest)

def depthOfMembers : List (String × Json) → Nat
  | [] => 0
  | (_, value) :: rest => max value.depth (depthOfMembers rest)

end

mutual

/-- The value with each name once in every record: of several members of one name the last
counts. -/
def merged : Json → Json
  | list items => list (mergedItems items)
  | record members => record (mergedMembers [] members)
  | value => value

def mergedItems : List Json → List Json
  | [] => []
  | item :: rest => item.merged :: mergedItems rest

def mergedMembers (earlier : List (String × Json)) : List (String × Json) → List (String × Json)
  | [] => earlier
  | (name, value) :: rest => mergedMembers (putNamed name value.merged earlier) rest

end

mutual

def isReadable : Json → Bool
  | unreadable => false
  | list items => allReadable items
  | record members => membersReadable members
  | _ => true

def allReadable : List Json → Bool
  | [] => true
  | item :: rest => item.isReadable && allReadable rest

def membersReadable : List (String × Json) → Bool
  | [] => true
  | (_, value) :: rest => value.isReadable && membersReadable rest

end

end Json

end Retrieval
