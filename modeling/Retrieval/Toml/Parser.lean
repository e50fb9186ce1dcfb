import Retrieval.Toml.Scalar
import Retrieval.Toml.Table
import Retrieval.Toml.Text

namespace Retrieval.Toml

open Settings (Value)

mutual

def value? : Nat → Nat → List Char → Option (Value × List Char)
  | 0, _, _ => none
  | fuel + 1, room, chars =>
      match chars with
      | '"' :: _ | '\'' :: _ => (text? chars).map fun (text, rest) => (.text text, rest)
      | '[' :: rest =>
          match room with
          | 0 => none
          | room + 1 => do
              let (items, rest) ← items? fuel room (skipGap rest)
              return (.list items, rest)
      | '{' :: rest =>
          match room with
          | 0 => none
          | room + 1 =>
              match skipBlanks rest with
              | '}' :: rest => return (.table [], rest)
              | rest => do
                  let (entries, rest) ← entries? fuel room rest
                  return (.table (← ofAssignments? entries), rest)
      | _ => scalar? chars

/-- Reads the items of a list up to its closing bracket. A comma may follow the last one. -/
def items? : Nat → Nat → List Char → Option (List Value × List Char)
  | 0, _, _ => none
  | _ + 1, _, ']' :: rest => some ([], rest)
  | fuel + 1, room, chars => do
      let (item, rest) ← value? fuel room chars
      match skipGap rest with
      | ']' :: rest => return ([item], rest)
      | ',' :: rest =>
          let (items, rest) ← items? fuel room (skipGap rest)
          return (item :: items, rest)
      | _ => none

def entries? : Nat → Nat → List Char →
    Option (List (List String × String × Value) × List Char)
  | 0, _, _ => none
  | fuel + 1, room, chars => do
      let (key, rest) ← key? chars
      match rest with
      | '=' :: rest =>
          let (value, rest) ← value? fuel room (skipBlanks rest)
          let entry := (key.path, key.name, value)
          match skipBlanks rest with
          | '}' :: rest => return ([entry], rest)
          | ',' :: rest =>
              let (entries, rest) ← entries? fuel room rest
              return (entry :: entries, rest)
          | _ => none
      | _ => none

end

def lineRest? (chars : List Char) : Option (List Char) :=
  finalLineEnd? (skipComment (skipBlanks chars))

/-- Reads a line that is not blank. Fuel for a value is enough at two steps for each character. -/
def line? (chars : List Char) : Option (Line × List Char) :=
  match chars with
  | '[' :: '[' :: rest => do
      match ← key? rest with
      | (key, ']' :: ']' :: rest) => return (.listHeader key.path key.name, ← lineRest? rest)
      | _ => none
  | '[' :: rest => do
      match ← key? rest with
      | (key, ']' :: rest) => return (.header key.path key.name, ← lineRest? rest)
      | _ => none
  | _ => do
      match ← key? chars with
      | (key, '=' :: rest) =>
          let (value, rest) ← value? (2 * rest.length + 2) (depthLimit - 1) (skipBlanks rest)
          return (.assignment key.path key.name value, ← lineRest? rest)
      | _ => none

/-- Reads lines up to the end of the text. Each takes at least one character. -/
def lines? : Nat → List Char → Option (List Line)
  | 0, _ => none
  | fuel + 1, chars =>
      match skipGap chars with
      | [] => some []
      | chars => do
          let (line, rest) ← line? chars
          return line :: (← lines? fuel rest)

def byteOrderMark : Char := '\uFEFF'

def parse? (source : String) : Option (List (String × Value)) := do
  let chars := match source.toList with
    | [] => []
    | first :: rest => if first = byteOrderMark then rest else first :: rest
  match ← settled? (.table (← ofLines? (← lines? (chars.length + 1) chars))) with
  | .table members => some members
  | _ => none

end Retrieval.Toml
