import Retrieval.Instant
import Retrieval.Json.Encoded

namespace Retrieval.Schedule

open Encoded

structure Settings where
  enabled : Bool := true
  jobTimeout : Nat := 300
  suggestionCleanup : Bool := true
  deriving DecidableEq, Repr, Inhabited

namespace Settings

/-- Sets the longest time of a run to whole seconds, one at least. -/
def withTimeout (settings : Settings) (nanos : Nat) : Settings :=
  { settings with jobTimeout := max (nanos / nanosPerSecond) 1 }

/-- The longest time of a run in nanoseconds. -/
def timeout (settings : Settings) : Nat :=
  settings.jobTimeout * nanosPerSecond

def toJson (settings : Settings) : Json :=
  .record [
    ("enabled", .boolean settings.enabled),
    ("job_timeout_secs", .ofNat settings.jobTimeout),
    ("suggestion_cleanup", .boolean settings.suggestionCleanup)]

def read? [Encoded ν] (value : ν) : Option Settings := do
  let standard : Settings := {}
  let fields ← record? ["enabled", "job_timeout_secs", "suggestion_cleanup"] value
  return {
    enabled := ← withDefault fields "enabled" standard.enabled boolean?
    jobTimeout := ← withDefault fields "job_timeout_secs" standard.jobTimeout natural?
    suggestionCleanup :=
      ← withDefault fields "suggestion_cleanup" standard.suggestionCleanup boolean? }

end Settings

abbrev JobId := Nat

inductive Fault where
  | zeroInterval (job : String)
  | unknownJob (id : JobId)
  | overtime (job : String) (seconds : Nat)
  | aborted (reason : String)
  | timer (reason : String)
  deriving DecidableEq, Repr

def Fault.message : Fault → String
  | zeroInterval job => "job '" ++ job ++ "' needs a non-zero interval"
  | unknownJob id => "no job with id " ++ toString id
  | overtime job seconds => "job '" ++ job ++ "' timed out after " ++ toString seconds ++ "s"
  | aborted reason => "suggestion cleanup aborted: " ++ reason
  | timer reason => "scheduler: " ++ reason

end Retrieval.Schedule
