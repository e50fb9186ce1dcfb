import Retrieval.Decimal.Reading

namespace Retrieval.Decimal

def signAndRest : List Char → Bool × List Char
  | '-' :: rest => (true, rest)
  | '+' :: rest => (false, rest)
  | chars => (false, chars)

def natural? (chars : List Char) : Option Nat :=
  let digits := match chars with
    | '+' :: rest => rest
    | chars => chars
  if !digits.isEmpty && digits.all Char.isDigit then some (naturalOf digits) else none

def integer? (chars : List Char) : Option Int :=
  let (negative, digits) := signAndRest chars
  if !digits.isEmpty && digits.all Char.isDigit then
    some (if negative then -(naturalOf digits : Int) else naturalOf digits)
  else
    none

def natural64? (chars : List Char) : Option Nat :=
  (natural? chars).filter fun number => number < bound64

def integer64? (chars : List Char) : Option Int :=
  (integer? chars).filter isSigned64

def exponent? : List Char → Option Int
  | [] => some 0
  | mark :: rest => if mark = 'e' || mark = 'E' then integer? rest else none

def unsigned? (chars : List Char) : Option Float :=
  let whole := chars.takeWhile Char.isDigit
  let (fraction, rest) := match chars.drop whole.length with
    | '.' :: rest => (rest.takeWhile Char.isDigit, rest.dropWhile Char.isDigit)
    | rest => ([], rest)
  if whole.isEmpty && fraction.isEmpty then
    none
  else
    (exponent? rest).map fun exponent =>
      nearest (naturalOf (whole ++ fraction)) (exponent - fraction.length)

def number? (chars : List Char) : Option Float :=
  let (negative, rest) := signAndRest chars
  let number := match String.ofList (rest.map Char.toLower) with
    | "inf" | "infinity" => some infinity
    | "nan" => some undefinedNumber
    | _ => unsigned? rest
  number.map (withSign negative)

end Retrieval.Decimal
