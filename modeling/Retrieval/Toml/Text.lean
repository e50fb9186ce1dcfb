import Retrieval.Json.Parser

namespace Retrieval.Toml

def isBlank (char : Char) : Bool :=
  char = ' ' || char = '\t'

def skipBlanks (chars : List Char) : List Char :=
  chars.dropWhile isBlank

def isPlain (char : Char) : Bool :=
  char = '\t' || (0x20 ≤ char.toNat && char.toNat ≠ 0x7F)

def lineEnd? : List Char → Option (List Char)
  | '\n' :: rest => some rest
  | '\r' :: '\n' :: rest => some rest
  | _ => none

/-- The rest after a line end. The end of the text ends its last line. -/
def finalLineEnd? : List Char → Option (List Char)
  | [] => some []
  | chars => lineEnd? chars

def skipComment : List Char → List Char
  | '#' :: rest => rest.dropWhile isPlain
  | chars => chars

def skipLines : Nat → List Char → List Char
  | 0, chars => chars
  | fuel + 1, chars =>
      let chars := skipComment (skipBlanks chars)
      match lineEnd? chars with
      | some rest => skipLines fuel rest
      | none => chars

def skipGap (chars : List Char) : List Char :=
  skipLines (chars.length + 1) chars

def codePoint? (digits : List Char) : Option Char := do
  let code ← digits.foldlM (fun code digit => do return code * 16 + (← Json.hexValue? digit)) 0
  if code < 0xD800 ∨ (0xE000 ≤ code ∧ code < 0x110000) then some (Char.ofNat code) else none

def numericEscape? (count : Nat) (chars : List Char) : Option (Char × List Char) :=
  if count ≤ chars.length then
    (codePoint? (chars.take count)).map fun char => (char, chars.drop count)
  else
    none

def escape? : List Char → Option (Char × List Char)
  | 'b' :: rest => some (Char.ofNat 8, rest)
  | 't' :: rest => some ('\t', rest)
  | 'n' :: rest => some ('\n', rest)
  | 'f' :: rest => some (Char.ofNat 12, rest)
  | 'r' :: rest => some ('\r', rest)
  | '"' :: rest => some ('"', rest)
  | '\\' :: rest => some ('\\', rest)
  | 'u' :: rest => numericEscape? 4 rest
  | 'U' :: rest => numericEscape? 8 rest
  | _ => none

def quoted? : Nat → List Char → Option (List Char × List Char)
  | 0, _ => none
  | _ + 1, [] => none
  | fuel + 1, char :: rest =>
      if char = '"' then
        some ([], rest)
      else if char = '\\' then do
        let (char, rest) ← escape? rest
        let (text, rest) ← quoted? fuel rest
        return (char :: text, rest)
      else if isPlain char then do
        let (text, rest) ← quoted? fuel rest
        return (char :: text, rest)
      else
        none

def literal? : List Char → Option (List Char × List Char)
  | [] => none
  | char :: rest =>
      if char = '\'' then
        some ([], rest)
      else if isPlain char then do
        let (text, rest) ← literal? rest
        return (char :: text, rest)
      else
        none

/-- Reads quotes in a text that three quotes close. Up to two may stand before the closing ones. -/
def closingQuotes? (quote : Char) (chars : List Char) : Option (List Char × List Char) :=
  let count := (chars.takeWhile (· == quote)).length
  if 3 ≤ count then
    let kept := min (count - 3) 2
    some (List.replicate kept quote, chars.drop (kept + 3))
  else
    none

def skipBlankLines : Nat → List Char → List Char
  | 0, chars => chars
  | fuel + 1, chars =>
      match lineEnd? (skipBlanks chars) with
      | some rest => skipBlankLines fuel rest
      | none => skipBlanks chars

/-- The rest after a backslash at the end of a line, which joins the next line that is not blank. -/
def joinedLine? (chars : List Char) : Option (List Char) :=
  (lineEnd? (skipBlanks chars)).map fun rest => skipBlankLines (rest.length + 1) rest

/-- Reads the inside of a text of several lines, up to its three closing quotes. Every line end
counts as a line feed. -/
def quotedLines? : Nat → List Char → Option (List Char × List Char)
  | 0, _ => none
  | _ + 1, [] => none
  | fuel + 1, char :: rest =>
      match closingQuotes? '"' (char :: rest), lineEnd? (char :: rest) with
      | some closed, _ => some closed
      | none, some rest => do
          let (text, rest) ← quotedLines? fuel rest
          return ('\n' :: text, rest)
      | none, none =>
          if char = '\\' then
            match joinedLine? rest with
            | some rest => quotedLines? fuel rest
            | none => do
                let (char, rest) ← escape? rest
                let (text, rest) ← quotedLines? fuel rest
                return (char :: text, rest)
          else if isPlain char then do
            let (text, rest) ← quotedLines? fuel rest
            return (char :: text, rest)
          else
            none

def literalLines? : Nat → List Char → Option (List Char × List Char)
  | 0, _ => none
  | _ + 1, [] => none
  | fuel + 1, char :: rest =>
      match closingQuotes? '\'' (char :: rest), lineEnd? (char :: rest) with
      | some closed, _ => some closed
      | none, some rest => do
          let (text, rest) ← literalLines? fuel rest
          return ('\n' :: text, rest)
      | none, none =>
          if isPlain char then do
            let (text, rest) ← literalLines? fuel rest
            return (char :: text, rest)
          else
            none

def skipFirstLineEnd (chars : List Char) : List Char :=
  (lineEnd? chars).getD chars

def text? (chars : List Char) : Option (String × List Char) := do
  let (text, rest) ← match chars with
    | '"' :: '"' :: '"' :: rest => quotedLines? (rest.length + 1) (skipFirstLineEnd rest)
    | '"' :: rest => quoted? (rest.length + 1) rest
    | '\'' :: '\'' :: '\'' :: rest => literalLines? (rest.length + 1) (skipFirstLineEnd rest)
    | '\'' :: rest => literal? rest
    | _ => none
  return (String.ofList text, rest)

def isBareKeyChar (char : Char) : Bool :=
  char.isAlphanum || char = '_' || char = '-'

def name? (chars : List Char) : Option (String × List Char) :=
  match chars with
  | '"' :: rest =>
      (quoted? (rest.length + 1) rest).map fun (text, rest) => (String.ofList text, rest)
  | '\'' :: rest => (literal? rest).map fun (text, rest) => (String.ofList text, rest)
  | _ =>
      match chars.takeWhile isBareKeyChar with
      | [] => none
      | name => some (String.ofList name, chars.drop name.length)

def names? : Nat → List Char → Option (List String × List Char)
  | 0, _ => none
  | fuel + 1, chars => do
      let (name, rest) ← name? (skipBlanks chars)
      match skipBlanks rest with
      | '.' :: rest =>
          let (names, rest) ← names? fuel rest
          return (name :: names, rest)
      | rest => return ([name], rest)

/-- The number of names that a key, and the number of containers that a value, must stay below. -/
def depthLimit : Nat := 80

structure Key where
  path : List String
  name : String
  deriving DecidableEq, Repr

def key? (chars : List Char) : Option (Key × List Char) := do
  let (names, rest) ← names? (chars.length + 1) chars
  if depthLimit ≤ names.length then
    none
  let name ← names.getLast?
  return (⟨names.dropLast, name⟩, rest)

end Retrieval.Toml
