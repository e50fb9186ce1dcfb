import Retrieval.Decimal.Layout
import Retrieval.Decimal.Numerals
import Retrieval.Encoded
import Retrieval.Json.Encoded
import Retrieval.Text.LowerCase

/-!
Values of layered settings. Files tell texts from numbers and environment variables do not, so a
value of one kind is taken for one of another kind wherever that makes sense.
-/

namespace Retrieval.Settings

/-- A value of a setting. A table has each name once. -/
inductive Value where
  | missing
  | boolean (value : Bool)
  | integer (value : Int)
  | real (value : Float)
  | text (value : String)
  | list (items : List Value)
  | table (members : List (String × Value))
  deriving Inhabited

namespace Value

mutual

/-- A data value as a setting. Null members are left out. -/
def ofJson : Json → Value
  | .null | .unreadable => missing
  | .boolean value => boolean value
  | .integer value => integer value
  | .real value => real value
  | .text value => text value
  | .list items => list (ofItems items)
  | .record members => table (ofMembers members)

def ofItems : List Json → List Value
  | [] => []
  | item :: rest => ofJson item :: ofItems rest

def ofMembers : List (String × Json) → List (String × Value)
  | [] => []
  | (_, .null) :: rest => ofMembers rest
  | (name, value) :: rest => (name, ofJson value) :: ofMembers rest

end

def answer? (text : String) : Option Bool :=
  match Text.lower text with
  | "true" | "on" | "yes" => some true
  | "false" | "off" | "no" => some false
  | _ => none

def booleanOfText? (text : String) : Option Bool :=
  match text with
  | "1" => some true
  | "0" => some false
  | _ => answer? text

def one (value : Bool) : Nat :=
  if value then 1 else 0

instance : Encoded Value where
  isNull
    | missing => true
    | _ => false
  text?
    | boolean value => some (if value then "true" else "false")
    | integer value => some (toString value)
    | real value => some (Decimal.shortestText Decimal.proseLayout value)
    | text value => some value
    | _ => none
  boolean?
    | boolean value => some value
    | integer value => some (value != 0)
    | real value => some (value != 0)
    | text value => booleanOfText? value
    | _ => none
  natural?
    | boolean value => some (one value)
    | integer value => if 0 ≤ value then some value.toNat else none
    | real value => some value.round.toUInt64.toNat
    | text value =>
        match answer? value with
        | some answer => some (one answer)
        | none => Decimal.natural64? value.toList
    | _ => none
  integer?
    | boolean value => some (one value)
    | integer value => some value
    | real value => some value.round.toInt64.toInt
    | text value =>
        match answer? value with
        | some answer => some (one answer)
        | none => Decimal.integer64? value.toList
    | _ => none
  real?
    | boolean value => some (one value).toFloat
    | integer value => some (Json.realOfInt value)
    | real value => some value
    | text value =>
        match answer? value with
        | some answer => some (one answer).toFloat
        | none => Decimal.number? value.toList
    | _ => none
  list?
    | list items => some items
    | _ => none
  members?
    | table members => some members
    | _ => none
  record? names
    | table members => some (members.filter fun member => names.contains member.1)
    | list items => some (names.zip items)
    | _ => none
  choice? names value :=
    let given := match value with
      | text name => some name
      | table [(name, _)] => some name
      | _ => none
    given.bind fun given => names.find? fun name => Text.lower name == Text.lower given

end Value

end Retrieval.Settings
