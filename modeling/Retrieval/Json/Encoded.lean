import Retrieval.Encoded
import Retrieval.Json.Basic

namespace Retrieval.Json

def realOfInt (number : Int) : Float :=
  Decimal.withSign (number < 0) number.natAbs.toUInt64.toFloat

/-- The members with known names. A known name that occurs twice is refused. -/
def knownMembers (names : List String) (members : List (String × Json)) :
    Option (List (String × Json)) :=
  let known := members.filter fun member => names.contains member.1
  if (known.map Prod.fst).Nodup then some known else none

/-- A record may also be written as the list of its fields in their order, the last of which may
be left out. -/
def positionalMembers (names : List String) (items : List Json) : Option (List (String × Json)) :=
  if items.length ≤ names.length then some (names.zip items) else none

instance : Encoded Json where
  isNull
    | null => true
    | _ => false
  text?
    | text value => some value
    | _ => none
  boolean?
    | boolean value => some value
    | _ => none
  natural?
    | integer value => if Decimal.isUnsigned64 value then some value.toNat else none
    | _ => none
  integer?
    | integer value => if Decimal.isSigned64 value then some value else none
    | _ => none
  real?
    | integer value => some (realOfInt value)
    | real value => some value
    | _ => none
  list?
    | list items => some items
    | _ => none
  members?
    | record members => some members
    | _ => none
  record? names
    | record members => knownMembers names members
    | list items => positionalMembers names items
    | _ => none
  choice? names
    | text name => if names.contains name then some name else none
    | record [(name, null)] => if names.contains name then some name else none
    | _ => none

end Retrieval.Json
