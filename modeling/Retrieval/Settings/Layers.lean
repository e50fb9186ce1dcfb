import Retrieval.Directory
import Retrieval.Settings.Path

/-!
Layers of settings. A later layer overrides what it names and keeps the rest: tables are merged,
all else is replaced. Names are kept in lower case, so layers may write them in any.
-/

namespace Retrieval.Settings

namespace Value

/-- The members of a table. Everything else gives way to an empty table. -/
def membersOf : Value → List (String × Value)
  | table members => members
  | _ => []

def withMember (root : Value) (name : String) (member : Value) : Value :=
  table (putNamed name member root.membersOf)

mutual

/-- Writes a value under a name. A table is merged into what is there. -/
def write (name : String) (root : Value) : Value → Value
  | table members =>
      let there := (findNamed (Text.lower name) root.membersOf).getD (table [])
      root.withMember (Text.lower name) (writeAll there members)
  | value => root.withMember (Text.lower name) value

def writeAll (root : Value) : List (String × Value) → Value
  | [] => root
  | (name, value) :: rest => writeAll (write name root value) rest

end

def itemsOf : Value → List Value
  | list items => items
  | _ => []

def longestList : Nat := 16777216

/-- The items with room for an index, and the place that the index means then. Missing items are
added at the end. There is no room before the first item, nor beyond the longest list. -/
def makeRoom? (items : List Value) (index : Int) : Option (List Value × Nat) :=
  if 0 ≤ index then
    if index.toNat < items.length then
      some (items, index.toNat)
    else if index.toNat < longestList then
      some (items ++ List.replicate (index.toNat + 1 - items.length) missing, index.toNat)
    else
      none
  else if index.natAbs ≤ items.length then
    some (items, items.length - index.natAbs)
  else
    none

/-- Writes a value at a path. What the path leads through is made a table or a list. There is no
answer if a list has no room for an index. -/
def writeAt? (value : Value) : Path → Value → Option Value
  | [], _ => some value
  | [.member name], root => some (write name root value)
  | .member name :: path, root => do
      let name := Text.lower name
      let member ← writeAt? value path ((findNamed name root.membersOf).getD missing)
      return root.withMember name member
  | .item index :: path, root => do
      let (items, place) ← makeRoom? root.itemsOf index
      return list (items.set place (← writeAt? value path (items[place]?.getD missing)))

def overlay? (root : Value) (layer : List (String × Value)) : Option Value :=
  layer.foldlM (fun root entry => writeAt? entry.2 (Path.ofKey entry.1) root) root

/-- Lays layers one over the other, the lowest first. A key that becomes a path in lower case is
one in the end. -/
def merge? (layers : List (List (String × Value))) : Option Value := do
  let merged ← layers.foldlM overlay? (table [])
  overlay? (table []) merged.membersOf

end Value

end Retrieval.Settings
