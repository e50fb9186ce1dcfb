import Retrieval.Text.Alphanumeric
import Retrieval.Text.Blank

/-!
Values inside query text. A value is written bare when nothing in it could be taken for syntax, and
in double quotes otherwise. Where quotes are not allowed, syntax is taken away by a backslash
before each character that has one.
-/

namespace Retrieval.Fragment

def isBare (char : Char) : Bool :=
  Text.isAlphanumeric char || char == '_' || char == '-' || char == '.'

def syntaxChars : List Char :=
  ['+', '-', '=', '&', '|', '>', '<', '!', '(', ')', '{', '}', '[', ']', '^', '"', '~', '*', '?',
    ':', '\\', '/']

def isSyntax (char : Char) : Bool :=
  syntaxChars.contains char || Text.isSpace char

def quotedChar (char : Char) : List Char :=
  if char = '"' || char = '\\' then ['\\', char] else [char]

def escapedChar (char : Char) : List Char :=
  if isSyntax char then ['\\', char] else [char]

def quoteChars (value : List Char) : List Char :=
  if !value.isEmpty && value.all isBare then
    value
  else
    '"' :: (value.flatMap quotedChar ++ ['"'])

def escapeChars (value : List Char) : List Char :=
  value.flatMap escapedChar

def quote (value : String) : String :=
  String.ofList (quoteChars value.toList)

def escape (value : String) : String :=
  String.ofList (escapeChars value.toList)

end Retrieval.Fragment
