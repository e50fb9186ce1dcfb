import Retrieval.Schedule.Job

/-!
The service that keeps maintenance jobs. A timer outside of it fires the jobs; every request to the
timer is answered, and the answer is part of what happens.
-/

namespace Retrieval.Schedule

/-- What the timer answers. A refused request has no effect on it. -/
inductive TimerReply where
  | done
  | refused (reason : String)
  deriving DecidableEq, Repr

def TimerReply.result : TimerReply → Except Failure Unit
  | done => .ok ()
  | refused reason => .error (.schedule (.timer reason))

structure Service (τ : Type) where
  settings : Settings
  running : Bool := false
  jobs : List (JobId × Job τ) := []
  next : JobId := 0

namespace Service

def job? (service : Service τ) (id : JobId) : Option (Job τ) :=
  (service.jobs.find? fun entry => entry.1 == id).map Prod.snd

/-- Starts firing jobs. A disabled service stays as it is, and a running one keeps running. -/
def start (service : Service τ) (reply : TimerReply) : Except Failure Unit × Service τ :=
  if !service.settings.enabled || service.running then
    (.ok (), service)
  else
    (reply.result, { service with running := reply == .done })

/-- Stops firing jobs. The service counts as stopped whatever the timer answers. -/
def shutdown (service : Service τ) (reply : TimerReply) : Except Failure Unit × Service τ :=
  if service.running then
    (reply.result, { service with running := false })
  else
    (.ok (), service)

def add (service : Service τ) (job : Job τ) (reply : TimerReply) :
    Except Failure JobId × Service τ :=
  if job.interval = 0 then
    (.error (.schedule (.zeroInterval job.name)), service)
  else
    match reply.result with
    | .error failure => (.error failure, service)
    | .ok _ =>
        (.ok service.next,
          { service with
            jobs := service.jobs ++ [(service.next, job)]
            next := service.next + 1 })

/-- Removes a job. It is gone whatever the timer answers. -/
def remove (service : Service τ) (id : JobId) (reply : TimerReply) :
    Except Failure Unit × Service τ :=
  if (service.job? id).isSome then
    (reply.result, { service with jobs := service.jobs.filter fun entry => entry.1 != id })
  else
    (.error (.schedule (.unknownJob id)), service)

def runNow (service : Service τ) (id : JobId) (now : Instant) (course : Course) :
    Except Failure Unit × Service τ :=
  match service.job? id with
  | none => (.error (.schedule (.unknownJob id)), service)
  | some job =>
      let (result, ran) := job.run now course service.settings.timeout
      (result,
        { service with
          jobs := service.jobs.map fun entry =>
            if entry.1 == id then (id, ran) else entry })

/-- The registered jobs by name. Jobs of one name stay in the order of registration. -/
def byName (service : Service τ) : List (JobId × Job τ) :=
  service.jobs.mergeSort fun left right => left.2.name ≤ right.2.name

def report? (service : Service τ) (id : JobId) : Option Report :=
  (service.job? id).map fun job => job.report id

def reports (service : Service τ) : List Report :=
  service.byName.map fun entry => entry.2.report entry.1

end Service

end Retrieval.Schedule
