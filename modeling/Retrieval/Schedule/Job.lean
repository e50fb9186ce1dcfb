import Retrieval.Failure

namespace Retrieval.Schedule

/-- What a task comes to, and after how many nanoseconds, if it ends at all. -/
structure Course where
  duration : Option Nat
  result : Except Failure Unit

structure Ending where
  result : Except Failure Unit
  duration : Nat

/-- A run that takes just as long as the limit is not given up. -/
def Course.endsWithin (course : Course) (limit : Nat) : Bool :=
  course.duration.any fun duration => duration ≤ limit

/-- The ending of a run that is given up after a limit. -/
def Course.within (course : Course) (job : String) (limit : Nat) : Ending :=
  match course.duration.filter fun duration => duration ≤ limit with
  | some duration => ⟨course.result, duration⟩
  | none => ⟨.error (.schedule (.overtime job (limit / nanosPerSecond))), limit⟩

structure LastRun where
  started : Instant
  duration : Nat
  failure : Option Failure

structure Job (τ : Type) where
  name : String
  /-- The time from one run to the next in nanoseconds. -/
  interval : Nat
  task : τ
  runs : Nat := 0
  failures : Nat := 0
  lastRun : Option LastRun := none

namespace Job

def failureOf : Except Failure Unit → Option Failure
  | .ok _ => none
  | .error failure => some failure

def record (job : Job τ) (started : Instant) (ending : Ending) : Job τ :=
  { job with
    runs := job.runs + 1
    failures := if (failureOf ending.result).isSome then job.failures + 1 else job.failures
    lastRun := some ⟨started, ending.duration, failureOf ending.result⟩ }

def run (job : Job τ) (started : Instant) (course : Course) (limit : Nat) :
    Except Failure Unit × Job τ :=
  let ending := course.within job.name limit
  (ending.result, job.record started ending)

def lastFailure (job : Job τ) : Option Failure :=
  job.lastRun.bind LastRun.failure

def intervalSeconds (job : Job τ) : Nat :=
  job.interval / nanosPerSecond

end Job

/-- What is told of a job. -/
structure Report where
  id : JobId
  name : String
  intervalSeconds : Nat
  runs : Nat
  failures : Nat
  lastRun : Option Instant
  lastMillis : Option Nat
  /-- The text of the failure that the last run ended with. -/
  lastError : Option String

def Job.report (job : Job τ) (id : JobId) : Report where
  id := id
  name := job.name
  intervalSeconds := job.intervalSeconds
  runs := job.runs
  failures := job.failures
  lastRun := job.lastRun.map LastRun.started
  lastMillis := job.lastRun.map fun last => last.duration / nanosPerMilli
  lastError := job.lastFailure.map Failure.message

end Retrieval.Schedule
