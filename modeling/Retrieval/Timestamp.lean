import Retrieval.Calendar
import Retrieval.Decimal.Reading
import Retrieval.Instant
import Retrieval.Text.Blank

namespace Retrieval.Timestamp

def digits? (most : Nat) (chars : List Char) : Option (Nat × List Char) :=
  let digits := (chars.take most).takeWhile Char.isDigit
  if digits.isEmpty then none else some (Decimal.naturalOf digits, chars.drop digits.length)

def part? (low high : Nat) (chars : List Char) : Option (Nat × List Char) := do
  let (value, rest) ← digits? 2 (Text.trimStartChars chars)
  if low ≤ value ∧ value ≤ high then some (value, rest) else none

def mark? (mark : Char) (chars : List Char) : Option (List Char) :=
  match Text.trimStartChars chars with
  | char :: rest => if char = mark then some rest else none
  | [] => none

def year? (chars : List Char) : Option (Int × List Char) :=
  match Text.trimStartChars chars with
  | '-' :: rest => (digits? rest.length rest).map fun (year, rest) => (-(year : Int), rest)
  | '+' :: rest => (digits? rest.length rest).map fun (year, rest) => ((year : Int), rest)
  | chars => (digits? 4 chars).map fun (year, rest) => ((year : Int), rest)

/-- Reads a fraction of a second in nanoseconds. Digits after the ninth do not count. -/
def fraction? : List Char → Option (Nat × List Char)
  | '.' :: rest =>
      match rest.takeWhile Char.isDigit with
      | [] => none
      | digits =>
          let kept := digits.take 9
          some (Decimal.naturalOf kept * Nat.pow 10 (9 - kept.length), rest.drop digits.length)
  | chars => some (0, chars)

def isGap (char : Char) : Bool :=
  char = ':' || Text.isSpace char

def offset? (chars : List Char) : Option (Int × List Char) :=
  match Text.trimStartChars chars with
  | char :: rest =>
      if char = 'Z' || char = 'z' then
        some (0, rest)
      else if (char :: rest.take 2).map Char.toUpper = ['U', 'T', 'C'] then
        some (0, rest.drop 2)
      else if char = '+' || char = '-' || char = '−' then
        match rest with
        | h :: i :: rest =>
            match rest.dropWhile isGap with
            | m :: n :: rest =>
                if h.isDigit && i.isDigit && m.isDigit && n.isDigit then
                  let hours := Decimal.naturalOf [h, i]
                  let minutes := Decimal.naturalOf [m, n]
                  let seconds : Int := hours * 3600 + minutes * 60
                  if hours < 24 ∧ minutes < 60 then
                    some (if char = '+' then seconds else -seconds, rest)
                  else
                    none
                else
                  none
            | _ => none
        | _ => none
      else
        none
  | [] => none

/-- Reads a date and time with its distance from universal time. Blanks may stand between the
parts, and one blank in place of the letter between date and time. The sixtieth second of a minute
is an added one. -/
def parse? (text : String) : Option Instant := do
  let (year, rest) ← year? text.toList
  let (month, rest) ← part? 1 12 (← mark? '-' rest)
  let (day, rest) ← part? 1 31 (← mark? '-' rest)
  let rest ← match rest with
    | char :: rest => if char = 'T' || char = 't' || char = ' ' then some rest else none
    | [] => none
  let (hour, rest) ← part? 0 23 rest
  let (minute, rest) ← part? 0 59 (← mark? ':' rest)
  let (second, rest) ← part? 0 60 (← mark? ':' rest)
  let (nanos, rest) ← fraction? rest
  let (offset, rest) ← offset? rest
  if !(Text.trimStartChars rest).isEmpty || Calendar.daysInMonth year month < day then
    none
  let minutes : Int := (Calendar.dayNumber year month day * 24 + hour) * 60 + minute
  let onSpot ←
    Instant.of? (minutes * 60 + min second 59) ((second - min second 59) * nanosPerSecond + nanos)
  Instant.of? (onSpot.second - offset) onSpot.nanos

end Retrieval.Timestamp
