import Retrieval.Settings.Value
import Retrieval.Text.Words

namespace Retrieval.Settings

abbrev Environment := List (String × String)

namespace Environment

def ofText (text : String) : Environment :=
  (Text.splitAtEach (·.toNat == 0) text.toList).filterMap fun entry =>
    match entry.dropWhile (· != '=') with
    | [] => none
    | _ :: value => some (String.ofList (entry.takeWhile (· != '=')), String.ofList value)

def opening : String := "media_search__"

/-- Puts points for double underscores, from left to right. -/
def pointed : List Char → List Char
  | '_' :: '_' :: rest => '.' :: pointed rest
  | char :: rest => char :: pointed rest
  | [] => []

def key? (name : String) : Option String :=
  let lowered := Text.lowerChars name.toList
  if opening.toList.isPrefixOf lowered then
    some (String.ofList (pointed (lowered.drop opening.length)))
  else
    none

def valueOf (text : String) : Value :=
  match Text.lower text with
  | "true" => .boolean true
  | "false" => .boolean false
  | _ =>
      match Decimal.integer64? text.toList, Decimal.number? text.toList with
      | some number, _ => .integer number
      | none, some number => .real number
      | none, none => .text text

def layer (environment : Environment) : List (String × Value) :=
  environment.filterMap fun entry => (key? entry.1).map fun key => (key, valueOf entry.2)

end Environment

end Retrieval.Settings
