import Retrieval.CommandLine.Options
import Retrieval.Decimal.Numerals
import Retrieval.Domain

namespace Retrieval.CommandLine

inductive Rendering where
  | tree
  | scored
  | text
  deriving DecidableEq, Repr

inductive Command where
  | compile (domain : Domain) (criteria path : String) (rendering : Rendering)
      (publishedOnly : Bool)
  | facetOrder (name : Option String)
  | suggest (entries wanted : String) (groups : List String) (size : Option Nat)
  deriving DecidableEq, Repr

structure Invocation where
  settings : Option String
  command : Command
  deriving DecidableEq, Repr

def isFilePath (path : String) : Bool :=
  !path.isEmpty

def size? (text : String) : Option Nat :=
  Decimal.natural64? text.toList

def anyText : Effect :=
  .value fun _ => true

def commonRules : List OptionRule := [
  { name := "config", letter := some 'c', effect := .value isFilePath },
  { name := "help", letter := some 'h', effect := .stop .help }]

def versionRule : OptionRule :=
  { name := "version", letter := some 'V', effect := .stop .version }

def compileRules : List OptionRule := [
  { name := "domain", letter := some 'd',
    effect := .value fun name => (Domain.ofName? name).isSome },
  { name := "criteria", effect := .value isFilePath },
  { name := "prefix", letter := some 'p', effect := anyText },
  { name := "score", effect := .flag },
  { name := "fragment", effect := .flag },
  { name := "published-only", effect := .flag }]

def facetOrderRules : List OptionRule := [
  { name := "sort", letter := some 's', effect := anyText }]

def suggestRules : List OptionRule := [
  { name := "entries", effect := .value isFilePath },
  { name := "prefix", letter := some 'p', effect := anyText },
  { name := "group", letter := some 'g', effect := anyText, repeatable := true },
  { name := "size", letter := some 's', effect := .value fun text => (size? text).isSome }]

def compileCommand (given : Given) : Option Command := do
  let domain ← match given.value? "domain" with
    | some name => Domain.ofName? name
    | none => some .media
  let rendering ← match given.has "score", given.has "fragment" with
    | true, true => none
    | true, false => some .scored
    | false, true => some .text
    | false, false => some .tree
  return .compile domain (← given.value? "criteria") ((given.value? "prefix").getD "") rendering
    (given.has "published-only")

def facetOrderCommand (given : Given) : Option Command :=
  some (.facetOrder (given.value? "sort"))

def suggestCommand (given : Given) : Option Command := do
  if !given.has "group" then
    none
  return .suggest (← given.value? "entries") (← given.value? "prefix") (given.values "group")
    ((given.value? "size").bind size?)

def commandRules : String → Option (List OptionRule × (Given → Option Command))
  | "compile" => some (compileRules, compileCommand)
  | "facet-order" => some (facetOrderRules, facetOrderCommand)
  | "suggest" => some (suggestRules, suggestCommand)
  | _ => none

def helpFor : List String → Stop
  | [] => .help
  | [name] => if name == "help" || (commandRules name).isSome then .help else .misuse
  | _ => .misuse

/-- Reads the arguments of a call. The file of settings may be named before and after the command;
the latter counts. -/
def Invocation.ofArguments (arguments : List String) : Except Stop Invocation := do
  match ← readOptions (versionRule :: commonRules) [] none arguments with
  | (_, []) => throw .misuse
  | (before, name :: rest) =>
      if name == "help" then
        throw (helpFor rest)
      match commandRules name with
      | none => throw .misuse
      | some (rules, command) =>
          match ← readOptions (rules ++ commonRules) [] none rest with
          | (given, []) =>
              match command given with
              | some command =>
                  return ⟨(given.value? "config").or (before.value? "config"), command⟩
              | none => throw .misuse
          | _ => throw .misuse

end Retrieval.CommandLine
