import Retrieval.Decimal.Numerals
import Retrieval.Json.Parser
import Retrieval.Toml.Date

namespace Retrieval.Toml

open Settings (Value)

/-- Reads digits of a class, the first of which must be there. Single underscores may stand between
them. -/
def digitRun? (isDigit : Char → Bool) : Nat → List Char → Option (List Char × List Char)
  | fuel + 1, char :: rest =>
      if isDigit char then
        match rest with
        | '_' :: more => do
            let (digits, rest) ← digitRun? isDigit fuel more
            return (char :: digits, rest)
        | next :: _ =>
            if isDigit next then do
              let (digits, rest) ← digitRun? isDigit fuel rest
              return (char :: digits, rest)
            else
              some ([char], rest)
        | [] => some ([char], [])
      else
        none
  | _, _ => none

def decimalRun? (chars : List Char) : Option (List Char × List Char) :=
  digitRun? Char.isDigit (chars.length + 1) chars

def wholeDigits? (chars : List Char) : Option (List Char × List Char) :=
  match chars with
  | '0' :: rest => some (['0'], rest)
  | _ => decimalRun? chars

def sign (chars : List Char) : List Char × List Char :=
  match chars with
  | '-' :: rest => (['-'], rest)
  | '+' :: rest => (['+'], rest)
  | _ => ([], chars)

def exponentDigits? : List Char → Option (List Char × List Char)
  | [] => none
  | mark :: rest =>
      if mark = 'e' || mark = 'E' then do
        let (sign, rest) := sign rest
        let (digits, rest) ← decimalRun? rest
        return ('e' :: sign ++ digits, rest)
      else
        none

def realDigits? : List Char → Option (List Char × List Char)
  | '.' :: rest => do
      let (fraction, rest) ← decimalRun? rest
      match exponentDigits? rest with
      | some (exponent, rest) => return ('.' :: fraction ++ exponent, rest)
      | none => return ('.' :: fraction, rest)
  | chars => exponentDigits? chars

/-- Reads a real number. There is none beyond the largest finite one. -/
def real? (chars : List Char) : Option (Value × List Char) := do
  let (sign, rest) := sign chars
  let (whole, rest) ← wholeDigits? rest
  let (digits, rest) ← realDigits? rest
  let number ← Decimal.number? (sign ++ whole ++ digits)
  if number == Decimal.infinity then none else some (.real number, rest)

def namedReal? (chars : List Char) : Option (Value × List Char) :=
  let (sign, rest) := sign chars
  match rest with
  | 'i' :: 'n' :: 'f' :: rest =>
      some (.real (Decimal.withSign (sign == ['-']) Decimal.infinity), rest)
  | 'n' :: 'a' :: 'n' :: rest => some (.real Decimal.undefinedNumber, rest)
  | _ => none

def fitting? (number : Int) : Option Value :=
  if Decimal.isSigned64 number then some (.integer number) else none

def digitOf (char : Char) : Nat :=
  (Json.hexValue? char).getD 0

def basedInteger? (base : Nat) (chars : List Char) : Option (Value × List Char) := do
  let isDigit (char : Char) : Bool := (Json.hexValue? char).any fun value => value < base
  let (digits, rest) ← digitRun? isDigit (chars.length + 1) chars
  let number := digits.foldl (fun number digit => number * base + digitOf digit) 0
  return (← fitting? number, rest)

def integer? (chars : List Char) : Option (Value × List Char) :=
  match chars with
  | '0' :: 'x' :: rest => basedInteger? 16 rest
  | '0' :: 'o' :: rest => basedInteger? 8 rest
  | '0' :: 'b' :: rest => basedInteger? 2 rest
  | _ => do
      let (sign, rest) := sign chars
      let (digits, rest) ← wholeDigits? rest
      return (← fitting? (← Decimal.integer? (sign ++ digits)), rest)

def boolean? : List Char → Option (Value × List Char)
  | 't' :: 'r' :: 'u' :: 'e' :: rest => some (.boolean true, rest)
  | 'f' :: 'a' :: 'l' :: 's' :: 'e' :: rest => some (.boolean false, rest)
  | _ => none

def scalar? (chars : List Char) : Option (Value × List Char) :=
  dateOrTime? chars <|> real? chars <|> namedReal? chars <|> integer? chars <|> boolean? chars

end Retrieval.Toml
