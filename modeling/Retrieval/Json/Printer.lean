import Retrieval.Json.Basic
import Retrieval.Decimal.Layout

namespace Retrieval.Json

open Retrieval.Decimal

def hexDigit (value : Nat) : Char :=
  Nat.digitChar value

def escaped (char : Char) : List Char :=
  if char = '"' then ['\\', '"']
  else if char = '\\' then ['\\', '\\']
  else if char = '\n' then ['\\', 'n']
  else if char = '\r' then ['\\', 'r']
  else if char = '\t' then ['\\', 't']
  else if char.toNat = 8 then ['\\', 'b']
  else if char.toNat = 12 then ['\\', 'f']
  else if char.toNat < 0x20 then
    ['\\', 'u', '0', '0', hexDigit (char.toNat / 16), hexDigit (char.toNat % 16)]
  else [char]

def quoted (text : String) : String :=
  "\"" ++ String.ofList (text.toList.flatMap escaped) ++ "\""

mutual

def compact : Json → String
  | null => "null"
  | boolean value => if value then "true" else "false"
  | integer value => toString value
  | real value => shortestText dataLayout value
  | text value => quoted value
  | list items => "[" ++ compactItems items ++ "]"
  | record members => "\x7b" ++ compactMembers members ++ "\x7d"
  | unreadable => "null"

def compactItems : List Json → String
  | [] => ""
  | [item] => item.compact
  | item :: rest => item.compact ++ "," ++ compactItems rest

def compactMembers : List (String × Json) → String
  | [] => ""
  | [(name, value)] => quoted name ++ ":" ++ value.compact
  | (name, value) :: rest => quoted name ++ ":" ++ value.compact ++ "," ++ compactMembers rest

end

def lineAt (indent : Nat) : String :=
  "\n" ++ String.ofList (List.replicate (2 * indent) ' ')

mutual

/-- The text of a value with every item and member on a line of its own, two blanks further in
than its container. Empty containers stay on one line. -/
def indented (indent : Nat) : Json → String
  | list (item :: rest) =>
      "[" ++ indentedItems (indent + 1) (item :: rest) ++ lineAt indent ++ "]"
  | record (member :: rest) =>
      "\x7b" ++ indentedMembers (indent + 1) (member :: rest) ++ lineAt indent ++ "\x7d"
  | value => value.compact

def indentedItems (indent : Nat) : List Json → String
  | [] => ""
  | [item] => lineAt indent ++ item.indented indent
  | item :: rest => lineAt indent ++ item.indented indent ++ "," ++ indentedItems indent rest

def indentedMembers (indent : Nat) : List (String × Json) → String
  | [] => ""
  | [(name, value)] => lineAt indent ++ quoted name ++ ": " ++ value.indented indent
  | (name, value) :: rest =>
      lineAt indent ++ quoted name ++ ": " ++ value.indented indent ++ "," ++
        indentedMembers indent rest

end

def pretty (value : Json) : String :=
  value.indented 0

end Retrieval.Json
