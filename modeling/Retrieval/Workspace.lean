import Retrieval.Schedule.Service

namespace Retrieval

open Suggestion

structure Tally where
  indexed : Nat := 0
  hits : Nat := 0
  misses : Nat := 0
  evicted : Nat := 0
  cleanups : Nat := 0
  completed : Nat := 0
  aborted : Nat := 0
  deriving DecidableEq, Repr, Inhabited

inductive TimeSource where
  | manual
  | wall
  deriving DecidableEq, Repr

/-- How a sweep goes that a job has started. One that is aborted has not begun. -/
structure Sweep where
  duration : Option Nat := some nanosPerMilli
  aborted : Option String := none

def Sweep.course (sweep : Sweep) : Schedule.Course where
  duration := sweep.duration
  result :=
    match sweep.aborted with
    | none => .ok ()
    | some reason => .error (.schedule (.aborted reason))

/-- What a job does in a run after so many others. -/
inductive Task where
  | courses (course : Nat → Schedule.Course)
  /-- The cleanup of the store of that number. -/
  | cleanup (number : Nat) (sweep : Nat → Sweep)

def Task.course : Task → Nat → Schedule.Course
  | courses course, runs => course runs
  | cleanup _ sweep, runs => (sweep runs).course

structure Workspace.Slot where
  store : Store
  source : TimeSource
  /-- Only jobs may still use the store. -/
  dropped : Bool := false

structure Workspace where
  /-- The instant that the clock on the wall shows. -/
  wall : Instant
  /-- The instant that the other clock is set to. -/
  clock : Instant
  slots : List Workspace.Slot := []
  tally : Tally := {}
  service : Schedule.Service Task

namespace Workspace

/-- The store of that number, unless it has been dropped. -/
def slot? (workspace : Workspace) (number : Nat) : Option Slot :=
  workspace.slots[number]?.filter fun slot => !slot.dropped

def now (workspace : Workspace) (slot : Slot) : Instant :=
  match slot.source with
  | .manual => workspace.clock
  | .wall => workspace.wall

def setStore (workspace : Workspace) (number : Nat) (store : Store) : Workspace :=
  { workspace with slots := workspace.slots.modify number fun slot => { slot with store } }

def create (workspace : Workspace) (settings : Suggestion.Settings) (source : TimeSource) :
    Except Failure (Nat × Workspace) := do
  let store ← (Store.create settings).mapError .suggestions
  return (workspace.slots.length,
    { workspace with slots := workspace.slots ++ [{ store, source }] })

def drop (workspace : Workspace) (number : Nat) : Workspace :=
  { workspace with
    slots := workspace.slots.modify number fun slot => { slot with dropped := true } }

def index (workspace : Workspace) (number : Nat) (slot : Slot) (text group : String) :
    Except Failure Workspace := do
  let store ← (slot.store.index (workspace.now slot) text group).mapError .indexing
  return { workspace.setStore number store with
    tally := { workspace.tally with indexed := workspace.tally.indexed + 1 } }

/-- Indexes texts up to the first that is refused. Those before it stay indexed. -/
def indexAll (workspace : Workspace) (number : Nat) (group : String) :
    List String → Except Failure Unit × Workspace
  | [] => (.ok (), workspace)
  | text :: texts =>
      match workspace.slot? number with
      | none => (.ok (), workspace)
      | some slot =>
          match workspace.index number slot text group with
          | .ok indexed => indexed.indexAll number group texts
          | .error failure => (.error failure, workspace)

def Tally.lookup (tally : Tally) (found : List Hit) : Tally :=
  if found.isEmpty then
    { tally with misses := tally.misses + 1 }
  else
    { tally with hits := tally.hits + 1 }

/-- Looks a prefix up in some groups of a store. What is no lookup is not counted. -/
def suggestIn (workspace : Workspace) (slot : Slot) (wanted : String) (groups : List String)
    (size : Option Nat) : List Hit × Workspace :=
  match slot.store.lookup? (workspace.now slot) wanted groups size with
  | some found => (found, { workspace with tally := Tally.lookup workspace.tally found })
  | none => ([], workspace)

def cleanup (workspace : Workspace) (number : Nat) (slot : Slot) : Nat × Workspace :=
  let (removed, store) := slot.store.cleanup (workspace.now slot)
  (removed, { workspace.setStore number store with
    tally := { workspace.tally with
      evicted := workspace.tally.evicted + removed
      cleanups := workspace.tally.cleanups + 1 } })

def setClock (workspace : Workspace) (clock : Instant) : Workspace :=
  { workspace with clock }

def setWall (workspace : Workspace) (wall : Instant) : Workspace :=
  { workspace with wall }

/-- Moves the clock by a span in nanoseconds, unless that leads beyond the calendar. -/
def advance? (workspace : Workspace) (span : Int) : Option Workspace :=
  (workspace.clock.later? span).map workspace.setClock

def cleanupJobName : String := "suggestion_cleanup"

def cleanupJob (number interval : Nat) (sweep : Nat → Sweep) : Schedule.Job Task where
  name := cleanupJobName
  interval := interval
  task := .cleanup number sweep

def addJob (workspace : Workspace) (job : Schedule.Job Task) :
    Except Failure (Schedule.JobId) × Workspace :=
  let (result, service) := workspace.service.add job .done
  (result, { workspace with service })

/-- Registers the cleanup of a store at the interval that its settings say, unless the service does
not schedule cleanups. -/
def scheduleCleanup (workspace : Workspace) (number : Nat) (slot : Slot) (sweep : Nat → Sweep) :
    Except Failure (Option Schedule.JobId) × Workspace :=
  if workspace.service.settings.suggestionCleanup then
    let (result, after) := workspace.addJob
      (cleanupJob number (slot.store.settings.cleanupSeconds * nanosPerSecond) sweep)
    (result.map some, after)
  else
    (.ok none, workspace)

def nextCourse (job : Schedule.Job Task) : Schedule.Course :=
  job.task.course job.runs

/-- What the next run of a job does to the stores. A sweep is carried out even if nobody waits for
its end, but only one that ends in time, or is aborted in time, is counted as such. -/
def perform (workspace : Workspace) (job : Schedule.Job Task) : Workspace :=
  match job.task with
  | .courses _ => workspace
  | .cleanup number sweep =>
      let sweep := sweep job.runs
      let awaited := sweep.course.endsWithin workspace.service.settings.timeout
      match sweep.aborted, workspace.slots[number]? with
      | none, some slot =>
          let after := (workspace.cleanup number slot).2
          if awaited then
            { after with tally := { after.tally with completed := after.tally.completed + 1 } }
          else
            after
      | some _, _ =>
          if awaited then
            { workspace with
              tally := { workspace.tally with aborted := workspace.tally.aborted + 1 } }
          else
            workspace
      | none, none => workspace

/-- Makes a job run at once. Its report dates the run by the clock on the wall, whatever clock the
stores go by. -/
def runNow (workspace : Workspace) (id : Schedule.JobId) : Except Failure Unit × Workspace :=
  match workspace.service.job? id with
  | none => (.error (.schedule (.unknownJob id)), workspace)
  | some job =>
      let (result, service) := workspace.service.runNow id workspace.wall (nextCourse job)
      (result, { workspace.perform job with service })

end Workspace

end Retrieval
