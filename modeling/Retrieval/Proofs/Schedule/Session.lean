import Retrieval.Proofs.Schedule.Service
import Retrieval.Workspace

namespace Retrieval

open Schedule

/-- What a job is registered with. -/
structure Plan where
  name : String
  interval : Nat
  task : Task

def Plan.job (plan : Plan) : Job Task where
  name := plan.name
  interval := plan.interval
  task := plan.task

namespace Workspace

inductive Request where
  | add (plan : Plan)
  | remove (id : JobId)
  | runNow (id : JobId)
  | report (id : JobId)
  | reports
  | moveClock (reading : Instant)
  | moveWall (reading : Instant)

inductive Answer where
  | added (result : Except Failure JobId)
  | removed (result : Except Failure Unit)
  | ran (result : Except Failure Unit)
  | report (report : Option Report)
  | reports (reports : List Report)
  | moved

/-- The workspace with a service that has no jobs yet. -/
def opened (workspace : Workspace) (settings : Schedule.Settings) : Workspace :=
  { workspace with service := { settings } }

def step (workspace : Workspace) : Request → Answer × Workspace
  | .add plan =>
      let (result, after) := workspace.addJob plan.job
      (.added result, after)
  | .remove id =>
      let (result, service) := workspace.service.remove id .done
      (.removed result, { workspace with service })
  | .runNow id =>
      let (result, after) := workspace.runNow id
      (.ran result, after)
  | .report id => (.report (workspace.service.report? id), workspace)
  | .reports => (.reports workspace.service.reports, workspace)
  | .moveClock reading => (.moved, workspace.setClock reading)
  | .moveWall reading => (.moved, workspace.setWall reading)

def run : Workspace → List Request → Workspace
  | workspace, [] => workspace
  | workspace, request :: rest => (workspace.step request).2.run rest

/-- A request and the workspace that it was made in. -/
structure Call where
  before : Workspace
  request : Request

def Call.answer (call : Call) : Answer :=
  (call.before.step call.request).1

def calls : Workspace → List Request → List Call
  | _, [] => []
  | workspace, request :: rest => ⟨workspace, request⟩ :: (workspace.step request).2.calls rest

variable {workspace : Workspace}

theorem run_concat (workspace : Workspace) (requests : List Request) (request : Request) :
    workspace.run (requests ++ [request]) = ((workspace.run requests).step request).2 := by
  induction requests generalizing workspace with
  | nil => rfl
  | cons first rest induction => exact induction (workspace.step first).2

theorem calls_concat (workspace : Workspace) (requests : List Request) (request : Request) :
    workspace.calls (requests ++ [request]) =
      workspace.calls requests ++ [⟨workspace.run requests, request⟩] := by
  induction requests generalizing workspace with
  | nil => rfl
  | cons first rest induction =>
      exact congrArg (⟨workspace, first⟩ :: ·) (induction (workspace.step first).2)

theorem step_add_refused {plan : Plan} (never : plan.interval = 0) :
    workspace.step (.add plan) =
      (.added (.error (.schedule (.zeroInterval plan.name))), workspace) := by
  simp [step, addJob, Service.add, Plan.job, never]

theorem step_add {plan : Plan} (repeated : plan.interval ≠ 0) :
    workspace.step (.add plan) =
      (.added (.ok workspace.service.next),
        { workspace with service := workspace.service.registered plan.job }) := by
  simp [step, addJob, Service.add, Plan.job, repeated, TimerReply.result, Service.registered]

theorem step_remove_unknown {id : JobId} (unknown : workspace.service.job? id = none) :
    workspace.step (.remove id) =
      (.removed (.error (.schedule (.unknownJob id))), workspace) := by
  simp [step, Service.remove, unknown]

theorem step_remove {id : JobId} {job : Job Task} (known : workspace.service.job? id = some job) :
    workspace.step (.remove id) =
      (.removed (.ok ()), { workspace with service := workspace.service.without id }) := by
  simp [step, Service.remove, known, TimerReply.result, Service.without]

theorem step_runNow_unknown {id : JobId} (unknown : workspace.service.job? id = none) :
    workspace.step (.runNow id) = (.ran (.error (.schedule (.unknownJob id))), workspace) := by
  simp [step, runNow, unknown]

/-- How the next run of a job ends in a service. -/
def ending (workspace : Workspace) (job : Job Task) : Ending :=
  (nextCourse job).within job.name workspace.service.settings.timeout

theorem step_runNow {id : JobId} {job : Job Task} (known : workspace.service.job? id = some job) :
    workspace.step (.runNow id) =
      (.ran (workspace.ending job).result,
        { workspace.perform job with
          service := workspace.service.replaced id
            (job.record workspace.wall (workspace.ending job)) }) := by
  simp [step, runNow, Service.runNow, known, Job.run, ending, Service.replaced]

/-- What one request makes of the jobs: it adds one, or removes one, or one has run once more. A
request for a job that is not there, or for one that never runs, leaves all as it is. -/
theorem step_cases (workspace : Workspace) (request : Request) :
    (∃ plan, request = .add plan ∧ plan.interval ≠ 0 ∧
      (workspace.step request).1 = .added (.ok workspace.service.next) ∧
      (workspace.step request).2.service = workspace.service.registered plan.job) ∨
    (∃ id job, request = .remove id ∧ workspace.service.job? id = some job ∧
      (workspace.step request).1 = .removed (.ok ()) ∧
      (workspace.step request).2.service = workspace.service.without id) ∨
    (∃ id job, request = .runNow id ∧ workspace.service.job? id = some job ∧
      (workspace.step request).1 = .ran (workspace.ending job).result ∧
      (workspace.step request).2.service =
        workspace.service.replaced id (job.record workspace.wall (workspace.ending job))) ∨
    ((∀ id, (workspace.step request).1 ≠ .added (.ok id)) ∧
      (∀ id, request = .remove id ∨ request = .runNow id → workspace.service.job? id = none) ∧
      (workspace.step request).2.service = workspace.service) := by
  cases request with
  | add plan =>
      by_cases never : plan.interval = 0
      · exact .inr (.inr (.inr ⟨by simp [step_add_refused never], by simp,
          by rw [step_add_refused never]⟩))
      · exact .inl ⟨plan, rfl, never, by rw [step_add never], by rw [step_add never]⟩
  | remove id =>
      cases known : workspace.service.job? id with
      | none =>
          exact .inr (.inr (.inr ⟨by simp [step_remove_unknown known], by simp [known],
            by rw [step_remove_unknown known]⟩))
      | some job =>
          exact .inr (.inl ⟨id, job, rfl, known, by rw [step_remove known],
            by rw [step_remove known]⟩)
  | runNow id =>
      cases known : workspace.service.job? id with
      | none =>
          exact .inr (.inr (.inr ⟨by simp [step_runNow_unknown known], by simp [known],
            by rw [step_runNow_unknown known]⟩))
      | some job =>
          exact .inr (.inr (.inl ⟨id, job, rfl, known, by rw [step_runNow known],
            by rw [step_runNow known]⟩))
  | report | reports | moveClock | moveWall => exact .inr (.inr (.inr ⟨nofun, nofun, rfl⟩))

end Workspace

end Retrieval
