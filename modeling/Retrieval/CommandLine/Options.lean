namespace Retrieval.CommandLine

inductive Stop where
  | misuse
  | help
  | version
  deriving DecidableEq, Repr

inductive Effect where
  | value (accepts : String → Bool)
  | flag
  | stop (stop : Stop)

structure OptionRule where
  name : String
  letter : Option Char := none
  effect : Effect
  repeatable : Bool := false

abbrev Given := List (String × String)

namespace Given

def has (given : Given) (name : String) : Bool :=
  given.any fun entry => entry.1 == name

def values (given : Given) (name : String) : List String :=
  (given.filter fun entry => entry.1 == name).map Prod.snd

def value? (given : Given) (name : String) : Option String :=
  (given.values name).head?

end Given

def OptionRule.enter (rule : OptionRule) (given : Given) (value : String) : Except Stop Given :=
  let accepted := match rule.effect with
    | .value accepts => accepts value
    | _ => true
  if accepted && (rule.repeatable || !given.has rule.name) then
    return given ++ [(rule.name, value)]
  else
    throw .misuse

inductive Argument where
  | word
  | separator
  | long (name : String) (value : Option String)
  | short (letter : Char) (rest : List Char)
  deriving DecidableEq, Repr

def splitAtEquals (chars : List Char) : String × Option String :=
  match chars.dropWhile (· != '=') with
  | [] => (String.ofList chars, none)
  | _ :: value => (String.ofList (chars.takeWhile (· != '=')), some (String.ofList value))

def Argument.ofText (text : String) : Argument :=
  match text.toList with
  | ['-', '-'] => separator
  | '-' :: '-' :: chars => long (splitAtEquals chars).1 (splitAtEquals chars).2
  | '-' :: letter :: rest => short letter rest
  | _ => word

def attached : List Char → Option String
  | [] => none
  | '=' :: value => some (String.ofList value)
  | value => some (String.ofList value)

/-- Takes in an option with what is attached to it. The answer names the option if its value is
still to come. -/
def OptionRule.apply (rule : OptionRule) (given : Given) (value : Option String) :
    Except Stop (Given × Option OptionRule) := do
  match rule.effect, value with
  | .value _, some value => return (← rule.enter given value, none)
  | .value _, none => return (given, some rule)
  | .flag, none => return (← rule.enter given "", none)
  | .stop stop, none => throw stop
  | _, some _ => throw .misuse

/-- Takes in a short option. Whatever follows the letter of one that stops reading does not
matter. -/
def OptionRule.applyShort (rule : OptionRule) (given : Given) (rest : List Char) :
    Except Stop (Given × Option OptionRule) :=
  match rule.effect with
  | .stop stop => throw stop
  | _ => rule.apply given (attached rest)

/-- Reads options up to the first word. `open?` is an option that waits for its value, which must
not look like an option itself. The rest begins with that first word. -/
def readOptions (rules : List OptionRule) (given : Given) (open? : Option OptionRule) :
    List String → Except Stop (Given × List String)
  | [] => if open?.isSome then throw .misuse else return (given, [])
  | text :: rest =>
      match open?, Argument.ofText text with
      | some rule, .word => do readOptions rules (← rule.enter given text) none rest
      | some _, _ => throw .misuse
      | none, .word => return (given, text :: rest)
      | none, .separator => if rest.isEmpty then return (given, []) else throw .misuse
      | none, .long name value =>
          match rules.find? fun rule => rule.name == name with
          | none => throw .misuse
          | some rule => do
              let (given, open?) ← rule.apply given value
              readOptions rules given open? rest
      | none, .short letter chars =>
          match rules.find? fun rule => rule.letter == some letter with
          | none => throw .misuse
          | some rule => do
              let (given, open?) ← rule.applyShort given chars
              readOptions rules given open? rest

end Retrieval.CommandLine
