import Retrieval.CommandLine.Command
import Retrieval.Decimal.Layout
import Retrieval.Facet
import Retrieval.Json.Printer
import Retrieval.Scoring.FunctionScore
import Retrieval.Settings.Loading

namespace Retrieval.CommandLine

inductive Fault where
  | settings (path : Option String)
  | noRoom
  | unreadable (path : String)
  | malformedCriteria
  | malformedLine (number : Nat)
  | failure (failure : Failure)

def Fault.message : Fault → String
  | .settings none => "failed to load configuration"
  | .settings (some path) => "failed to load configuration from " ++ path
  | .noRoom => (Failure.settings .noRoom).message
  | .unreadable path => "failed to read " ++ path
  | .malformedCriteria => "criteria file is not valid JSON"
  | .malformedLine number => "line " ++ toString number ++ " is not of the form group<TAB>text"
  | .failure cause => cause.message

def Fault.exitCode : Fault → UInt8
  | .noRoom => 101
  | _ => 1

def Fault.ofLoading (path : Option String) : Failure → Fault
  | .settings .noRoom => .noRoom
  | _ => .settings path

structure Outcome where
  exitCode : UInt8
  output : String
  fault : Option Fault := none

def programName : String := "media-search"

def versionText : String := programName ++ " 1.0.1\n"

def helpText : String :=
  "Compile media search queries and try out suggestions\n\n" ++
  "Usage: " ++ programName ++ " [OPTIONS] <COMMAND>\n\n" ++
  "Commands:\n" ++
  "  compile --criteria <FILE> [-d <DOMAIN>] [-p <PREFIX>] [--score | --fragment] " ++
    "[--published-only]\n" ++
  "  facet-order [-s <SORT>]\n" ++
  "  suggest --entries <FILE> -p <PREFIX> -g <GROUP>... [-s <SIZE>]\n\n" ++
  "Options:\n" ++
  "  -c, --config <CONFIG>\n  -h, --help\n  -V, --version\n"

def readFile (read : FileReader) (path : String) : Except Fault String :=
  match read path with
  | some text => return text
  | none => throw (.unreadable path)

def criteriaOf (text : String) : Except Fault Criteria :=
  match (Json.parse? text).bind Criteria.ofJson? with
  | some criteria => return criteria
  | none => throw .malformedCriteria

def compileOutput (settings : Settings) (domain : Domain) (criteria : Criteria) (path : String)
    (rendering : Rendering) (publishedOnly : Bool) : Except Failure String := do
  let compiler : Compiler := ⟨domain, settings.search⟩
  let context : Context := if publishedOnly then .publishedOnly else {}
  match rendering with
  | .text =>
      let fragment ← (compiler.compileText (some criteria) context (some path)).mapError .request
      return fragment.text ++ "\n"
  | .tree =>
      let node ← (compiler.compile (some criteria) context {} (some path)).mapError .request
      return node.toJson.pretty ++ "\n"
  | .scored =>
      let node ← (compiler.compile (some criteria) context {} (some path)).mapError .request
      return (settings.scoring.wrap node).toJson.pretty ++ "\n"

def withoutReturn (line : List Char) : List Char :=
  match line.getLast? with
  | some '\r' => line.dropLast
  | _ => line

/-- The lines of a text. The end of the last line does not begin another. -/
def linesOf (text : String) : List (List Char) :=
  let lines := Text.splitAtEach (· == '\n') text.toList
  let lines := if lines.getLast? == some [] then lines.dropLast else lines
  lines.map withoutReturn

def isSkipped (line : List Char) : Bool :=
  line.all Text.isSpace || line.head? == some '#'

/-- A run takes no time, and only distances of time matter, so any instant will do. -/
def now : Instant := default

def indexLines (store : Suggestion.Store) (number : Nat) :
    List (List Char) → Except Fault Suggestion.Store
  | [] => return store
  | line :: lines =>
      if isSkipped line then
        indexLines store (number + 1) lines
      else
        match line.dropWhile (· != '\t') with
        | [] => throw (.malformedLine number)
        | _ :: text => do
            let group := String.ofList (line.takeWhile (· != '\t'))
            let store ← (store.index now (String.ofList text) group).mapError fun fault =>
              .failure (.indexing fault)
            indexLines store (number + 1) lines

def hitLine (hit : Suggestion.Hit) : String :=
  hit.text ++ "\t" ++ Decimal.fixedText 3 hit.score ++ "\n"

def Command.output (read : FileReader) (settings : Settings) : Command → Except Fault String
  | compile domain criteria path rendering publishedOnly => do
      let criteria ← criteriaOf (← readFile read criteria)
      (compileOutput settings domain criteria path rendering publishedOnly).mapError .failure
  | facetOrder name => return (Facet.BucketOrder.ofName name).toJson.compact ++ "\n"
  | suggest entries wanted groups size => do
      let store ← (Suggestion.Store.create settings.suggestions).mapError fun fault =>
        .failure (.suggestions fault)
      let text ← readFile read entries
      let store ← indexLines store 1 (linesOf text)
      return String.join ((store.suggestIn now wanted groups size).map hitLine)

def Invocation.output (read : FileReader) (environment : Settings.Environment)
    (invocation : Invocation) : Except Fault String := do
  let settings ← (Settings.loadFrom read environment invocation.settings).mapError
    (.ofLoading invocation.settings)
  invocation.command.output read settings

def run (arguments : List String) (read : FileReader) (environment : Settings.Environment) :
    Outcome :=
  match Invocation.ofArguments arguments with
  | .error .misuse => ⟨2, "", none⟩
  | .error .help => ⟨0, helpText, none⟩
  | .error .version => ⟨0, versionText, none⟩
  | .ok invocation =>
      match invocation.output read environment with
      | .ok output => ⟨0, output, none⟩
      | .error fault => ⟨fault.exitCode, "", some fault⟩

def pathsOf (arguments : List String) (environment : Settings.Environment) : List String :=
  match Invocation.ofArguments arguments with
  | .error _ => []
  | .ok invocation =>
      let settings := invocation.settings.getD (Settings.pathIn environment)
      let input := match invocation.command with
        | .compile _ criteria _ _ _ => [criteria]
        | .facetOrder _ => []
        | .suggest entries _ _ _ => [entries]
      settings :: ((Settings.withFileEnding? settings).toList ++ input)

end Retrieval.CommandLine
