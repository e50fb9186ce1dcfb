import Retrieval.Calendar
import Retrieval.Decimal.Reading
import Retrieval.Settings.Value

/-!
Dates and times of the TOML notation. They are kept as tables of one reserved name until a whole
text is read, and a table that is written with this name is one of them too.
-/

namespace Retrieval.Toml

open Settings (Value)

def digits? (count low high : Nat) (chars : List Char) : Option (Nat × List Char) :=
  let digits := chars.take count
  let number := Decimal.naturalOf digits
  if digits.length = count && digits.all Char.isDigit && low ≤ number && number ≤ high then
    some (number, chars.drop count)
  else
    none

def mark? (mark : Char) : List Char → Option (List Char)
  | [] => none
  | char :: rest => if char = mark then some rest else none

def padded (count number : Nat) : List Char :=
  let digits := Nat.toDigits 10 number
  List.replicate (count - digits.length) '0' ++ digits

def date? (chars : List Char) : Option (List Char × List Char) := do
  let (year, rest) ← digits? 4 0 9999 chars
  let (month, rest) ← digits? 2 1 12 (← mark? '-' rest)
  let (day, rest) ← digits? 2 1 (Calendar.daysInMonth year month) (← mark? '-' rest)
  return (padded 4 year ++ '-' :: padded 2 month ++ '-' :: padded 2 day, rest)

def secondFraction (chars : List Char) : List Char × List Char :=
  match chars with
  | '.' :: rest =>
      match rest.takeWhile Char.isDigit with
      | [] => ([], chars)
      | digits =>
          let kept := ((digits.take 9).reverse.dropWhile (· == '0')).reverse
          (if kept.isEmpty then [] else '.' :: kept, rest.drop digits.length)
  | _ => ([], chars)

def time? (lastHour : Nat) (chars : List Char) : Option (List Char × List Char) := do
  let (hour, rest) ← digits? 2 0 lastHour chars
  let (minute, rest) ← digits? 2 0 59 (← mark? ':' rest)
  let (second, rest) ← digits? 2 0 60 (← mark? ':' rest)
  let (fraction, rest) := secondFraction rest
  return (padded 2 hour ++ ':' :: padded 2 minute ++ ':' :: padded 2 second ++ fraction, rest)

/-- Reads the distance from universal time, with hours and minutes up to the last that are allowed
and minutes in total up to a limit. Minutes beyond an hour are carried. A distance of nothing has no
minus sign. -/
def offset? (lastHour lastMinute limit : Nat) (chars : List Char) :
    Option (List Char × List Char) :=
  match chars with
  | 'Z' :: rest => some (['Z'], rest)
  | 'z' :: rest => some (['Z'], rest)
  | sign :: rest =>
      if sign = '+' || sign = '-' then do
        let (hours, rest) ← digits? 2 0 lastHour rest
        let (minutes, rest) ← digits? 2 0 lastMinute (← mark? ':' rest)
        let total := hours * 60 + minutes
        if limit < total then
          none
        let sign := if total = 0 then '+' else sign
        return (sign :: padded 2 (total / 60) ++ ':' :: padded 2 (total % 60), rest)
      else
        none
  | [] => none

def minutesPerDay : Nat := 1440

def isDateEnd (char : Char) : Bool :=
  char = 'T' || char = 't' || char = ' '

/-- The name of the one member of a table that stands for a date or time. -/
def dateName : String := "$__toml_private_datetime"

def timeAfterDate? : List Char → Option (List Char × List Char)
  | [] => none
  | mark :: rest =>
      if isDateEnd mark then do
        let (time, rest) ← time? 23 rest
        match offset? 23 59 minutesPerDay rest with
        | some (offset, rest) => return ('T' :: time ++ offset, rest)
        | none => return ('T' :: time, rest)
      else
        none

def dateOrTime? (chars : List Char) : Option (Value × List Char) :=
  let found := match date? chars with
    | some (date, rest) =>
        match timeAfterDate? rest with
        | some (time, rest) => some (date ++ time, rest)
        | none => some (date, rest)
    | none => time? 23 chars
  found.map fun (text, rest) => (.table [(dateName, .text (String.ofList text))], rest)

def whole? : List Char × List Char → Option (List Char)
  | (found, []) => some found
  | _ => none

def restOffset? : List Char → Option (List Char)
  | [] => some []
  | chars => (offset? 99 99 minutesPerDay chars).bind whole?

/-- Reads a date, a time, or both, as a whole text. The end of a day counts as an hour of it, and
minutes in the distance from universal time may exceed an hour. -/
def wholeDate? (chars : List Char) : Option (List Char) :=
  match date? chars with
  | none => (time? 24 chars).bind whole?
  | some (date, []) => some date
  | some (date, mark :: rest) =>
      if isDateEnd mark then do
        let (time, rest) ← time? 24 rest
        return date ++ 'T' :: time ++ (← restOffset? rest)
      else
        none

mutual

/-- The value of a setting that a value of a text stands for. A table that begins with the reserved
name stands for the date under it, which must be one. -/
def settled? : Value → Option Value
  | .table [] => some (.table [])
  | .table ((name, value) :: rest) =>
      if name = dateName then
        match value with
        | .text text => (wholeDate? text.toList).map fun date => .text (String.ofList date)
        | _ => none
      else do
        return .table ((name, ← settled? value) :: (← settledMembers? rest))
  | .list items => (settledItems? items).map .list
  | value => some value

def settledItems? : List Value → Option (List Value)
  | [] => some []
  | item :: rest => do return (← settled? item) :: (← settledItems? rest)

def settledMembers? : List (String × Value) → Option (List (String × Value))
  | [] => some []
  | (name, value) :: rest => do return (name, ← settled? value) :: (← settledMembers? rest)

end

end Retrieval.Toml
