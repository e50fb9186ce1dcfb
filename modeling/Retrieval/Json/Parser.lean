import Retrieval.Json.Basic

/-! Reading of data texts. The grammar is strict: no comments, no trailing commas, no blanks other
than space, tab and line ends. -/

namespace Retrieval.Json

open Retrieval.Decimal

def isSeparator (char : Char) : Bool :=
  char = ' ' || char = '\t' || char = '\n' || char = '\r'

def skipBlanks (chars : List Char) : List Char :=
  chars.dropWhile isSeparator

def after? : List Char → List Char → Option (List Char)
  | [], chars => some chars
  | _ :: _, [] => none
  | expected :: more, char :: rest => if expected = char then after? more rest else none

def hexValue? (char : Char) : Option Nat :=
  if char.isDigit then some (char.toNat - '0'.toNat)
  else if 'a' ≤ char ∧ char ≤ 'f' then some (char.toNat - 'a'.toNat + 10)
  else if 'A' ≤ char ∧ char ≤ 'F' then some (char.toNat - 'A'.toNat + 10)
  else none

def codeUnit? : List Char → Option (Nat × List Char)
  | a :: b :: c :: d :: rest => do
      let a ← hexValue? a
      let b ← hexValue? b
      let c ← hexValue? c
      let d ← hexValue? d
      return (((a * 16 + b) * 16 + c) * 16 + d, rest)
  | _ => none

def isLeadingSurrogate (unit : Nat) : Bool := 0xD800 ≤ unit && unit < 0xDC00

def isTrailingSurrogate (unit : Nat) : Bool := 0xDC00 ≤ unit && unit < 0xE000

/-- One part of a text: a character, or half of a surrogate pair. -/
abbrev Piece := Option Char

def escape? : List Char → Option (Piece × List Char)
  | '"' :: rest => some ('"', rest)
  | '\\' :: rest => some ('\\', rest)
  | '/' :: rest => some ('/', rest)
  | 'b' :: rest => some (Char.ofNat 8, rest)
  | 'f' :: rest => some (Char.ofNat 12, rest)
  | 'n' :: rest => some ('\n', rest)
  | 'r' :: rest => some ('\r', rest)
  | 't' :: rest => some ('\t', rest)
  | 'u' :: rest => do
      let (unit, rest) ← codeUnit? rest
      if isLeadingSurrogate unit then
        match rest with
        | '\\' :: 'u' :: more =>
            let (second, final) ← codeUnit? more
            if isTrailingSurrogate second then
              return (Char.ofNat (0x10000 + (unit - 0xD800) * 0x400 + (second - 0xDC00)), final)
            else
              return (none, rest)
        | _ => return (none, rest)
      else if isTrailingSurrogate unit then
        return (none, rest)
      else
        return (Char.ofNat unit, rest)
  | _ => none

def pieces? : Nat → List Char → Option (List Piece × List Char)
  | 0, _ => none
  | _ + 1, [] => none
  | fuel + 1, char :: rest =>
      if char = '"' then
        some ([], rest)
      else if char = '\\' then do
        let (piece, rest) ← escape? rest
        let (pieces, rest) ← pieces? fuel rest
        return (piece :: pieces, rest)
      else if char.toNat < 0x20 then
        none
      else do
        let (pieces, rest) ← pieces? fuel rest
        return (some char :: pieces, rest)

def textOf? (pieces : List Piece) : Option String :=
  (pieces.mapM id).map String.ofList

def text? (fuel : Nat) (chars : List Char) : Option (Option String × List Char) := do
  let (pieces, rest) ← pieces? fuel chars
  return (textOf? pieces, rest)

def powerLimit : Nat := 0x80000000

/-- The number that a numeral denotes. A numeral without point and exponent is a whole number if
it fits in 64 bits, signed or not; minus zero is not. -/
def numberOf (negative : Bool) (whole : List Char) (fraction : Option (List Char))
    (power : Option (Bool × List Char)) : Json :=
  let leading := Leading.whole ⟨0, 0⟩ whole
  let plain := fraction.isNone && power.isNone && leading.exponent == 0
  if plain && !negative then
    integer leading.significand
  else if plain && 0 < leading.significand && leading.significand ≤ bound63 then
    integer (-leading.significand)
  else
    let leading := leading.fraction (fraction.getD [])
    let (lowers, size) := match power with
      | none => (false, 0)
      | some (lowers, digits) => (lowers, naturalOf digits)
    let number :=
      if size < powerLimit then
        Leading.toFloat?
          ⟨leading.significand, leading.exponent + if lowers then -(size : Int) else size⟩ negative
      else if leading.significand ≠ 0 && !lowers then
        none
      else
        some (withSign negative 0)
    match number with
    | some number => real number
    | none => unreadable

def fraction? : List Char → Option (Option (List Char) × List Char)
  | '.' :: rest =>
      match rest.takeWhile Char.isDigit with
      | [] => none
      | digits => some (some digits, rest.dropWhile Char.isDigit)
  | chars => some (none, chars)

def power? : List Char → Option (Option (Bool × List Char) × List Char)
  | [] => some (none, [])
  | char :: rest =>
      if char = 'e' || char = 'E' then
        let (lowers, rest) := match rest with
          | '+' :: more => (false, more)
          | '-' :: more => (true, more)
          | _ => (false, rest)
        match rest.takeWhile Char.isDigit with
        | [] => none
        | digits => some (some (lowers, digits), rest.dropWhile Char.isDigit)
      else
        some (none, char :: rest)

def number? (negative : Bool) (chars : List Char) : Option (Json × List Char) := do
  let whole := chars.takeWhile Char.isDigit
  match whole with
  | [] => none
  | '0' :: _ :: _ => none
  | _ =>
      let (fraction, rest) ← fraction? (chars.dropWhile Char.isDigit)
      let (power, rest) ← power? rest
      return (numberOf negative whole fraction power, rest)

mutual

def value? : Nat → List Char → Option (Json × List Char)
  | 0, _ => none
  | fuel + 1, chars =>
      match skipBlanks chars with
      | '"' :: rest => do
          let (content, rest) ← text? fuel rest
          return (content.elim unreadable text, rest)
      | '[' :: rest =>
          match skipBlanks rest with
          | ']' :: rest => some (list [], rest)
          | _ => (items? fuel rest).map fun (items, rest) => (list items, rest)
      | '{' :: rest =>
          match skipBlanks rest with
          | '}' :: rest => some (record [], rest)
          | _ => (members? fuel rest).map fun (members, rest) =>
              (members.elim unreadable record, rest)
      | '-' :: rest => number? true rest
      | 't' :: rest => (after? ['r', 'u', 'e'] rest).map fun rest => (boolean true, rest)
      | 'f' :: rest => (after? ['a', 'l', 's', 'e'] rest).map fun rest => (boolean false, rest)
      | 'n' :: rest => (after? ['u', 'l', 'l'] rest).map fun rest => (null, rest)
      | rest => number? false rest

def items? : Nat → List Char → Option (List Json × List Char)
  | 0, _ => none
  | fuel + 1, chars => do
      let (item, rest) ← value? fuel chars
      match skipBlanks rest with
      | ']' :: rest => return ([item], rest)
      | ',' :: rest =>
          let (items, rest) ← items? fuel rest
          return (item :: items, rest)
      | _ => none

/-- Reads the members of a record up to its closing brace. A name with half of a surrogate pair
makes the whole record unreadable. -/
def members? : Nat → List Char → Option (Option (List (String × Json)) × List Char)
  | 0, _ => none
  | fuel + 1, chars =>
      match skipBlanks chars with
      | '"' :: rest => do
          let (name, rest) ← text? fuel rest
          match skipBlanks rest with
          | ':' :: rest =>
              let (value, rest) ← value? fuel rest
              let member := name.map fun name => (name, value)
              match skipBlanks rest with
              | '}' :: rest => return (member.map ([·]), rest)
              | ',' :: rest =>
                  let (members, rest) ← members? fuel rest
                  return (do return (← member) :: (← members), rest)
              | _ => none
          | _ => none
      | _ => none

end

/-- Reads a text that holds one value and nothing else but blanks. A container and its first item
take two steps for at least one character, so twice the length is enough fuel. -/
def parse? (source : String) : Option Json := do
  let chars := source.toList
  let (value, rest) ← value? (2 * chars.length + 2) chars
  match skipBlanks rest with
  | [] => return value
  | _ => none

end Retrieval.Json
