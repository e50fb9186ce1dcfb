import Retrieval.CommandLine.Run

namespace Retrieval

def readText (path : String) : IO (Option String) := do
  try
    return some (← IO.FS.readFile path)
  catch _ =>
    return none

def environmentPath : String := "/proc/self/environ"

end Retrieval

open Retrieval in
def main (arguments : List String) : IO UInt32 := do
  let environment := Settings.Environment.ofText ((← readText environmentPath).getD "")
  let files ← (CommandLine.pathsOf arguments environment).mapM fun path => do
    return (path, ← readText path)
  let read (path : String) : Option String := (findNamed path files).join
  let outcome := CommandLine.run arguments read environment
  IO.print outcome.output
  match outcome.fault with
  | some fault => IO.eprintln ("Error: " ++ fault.message)
  | none => if outcome.exitCode == 2 then IO.eprint CommandLine.helpText
  return outcome.exitCode.toUInt32
