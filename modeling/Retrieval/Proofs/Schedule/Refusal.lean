import Retrieval.Proofs.Schedule.Service

/-!
What refused requests to the timer leave behind. Starting a service and adding a job wait for the
timer before they change anything. Stopping it and removing a job do not, so that after a refusal
the service no longer knows what the timer goes on with.
-/

namespace Retrieval.Schedule

inductive Operation (τ : Type) where
  | start
  | shutdown
  | add (job : Job τ)
  | remove (id : JobId)

/-- The timer as far as a service asks for it: whether it fires, and which jobs. -/
structure Timer where
  firing : Bool
  scheduled : List JobId

namespace Service

variable {service : Service τ} {operation : Operation τ} {reply : TimerReply}

def perform (service : Service τ) (operation : Operation τ) (reply : TimerReply) :
    Except Failure Unit × Service τ :=
  match operation with
  | .start => service.start reply
  | .shutdown => service.shutdown reply
  | .add job =>
      let (result, after) := service.add job reply
      (result.map fun _ => (), after)
  | .remove id => service.remove id reply

/-- What an operation asks the timer for, if it comes to that. -/
def asked? (service : Service τ) : Operation τ → Option (Timer → Timer)
  | .start =>
      if !service.settings.enabled || service.running then none
      else some fun timer => { timer with firing := true }
  | .shutdown =>
      if service.running then some fun timer => { timer with firing := false } else none
  | .add job =>
      if job.interval = 0 then none
      else some fun timer => { timer with scheduled := timer.scheduled ++ [service.next] }
  | .remove id =>
      if (service.job? id).isSome then
        some fun timer => { timer with scheduled := timer.scheduled.filter (· != id) }
      else none

/-- The timer after an operation. What it refuses has no effect on it. -/
def timerAfter (service : Service τ) (operation : Operation τ) (reply : TimerReply)
    (timer : Timer) : Timer :=
  match service.asked? operation, reply with
  | some change, .done => change timer
  | _, _ => timer

structure InStep (service : Service τ) (timer : Timer) : Prop where
  running : service.running = timer.firing
  scheduled : service.jobs.map Prod.fst = timer.scheduled

/-- The operation changes the service before the timer has answered. -/
def Hasty (service : Service τ) : Operation τ → Prop
  | .shutdown => service.running = true
  | .remove id => (service.job? id).isSome = true
  | .start | .add _ => False

theorem perform_shutdown (running : service.running = true) (reply : TimerReply) :
    service.perform .shutdown reply = (reply.result, { service with running := false }) := by
  simp [perform, shutdown, running]

theorem perform_shutdown_stopped (stopped : service.running = false) (reply : TimerReply) :
    service.perform .shutdown reply = (.ok (), service) := by
  simp [perform, shutdown, stopped]

theorem perform_remove {id : JobId} (known : (service.job? id).isSome = true)
    (reply : TimerReply) :
    service.perform (.remove id) reply = (reply.result, service.without id) := by
  simp [perform, remove, known, without]

theorem perform_remove_unknown {id : JobId} (unknown : service.job? id = none)
    (reply : TimerReply) :
    service.perform (.remove id) reply = (.error (.schedule (.unknownJob id)), service) := by
  simp [perform, remove, unknown]

theorem timerAfter_refused (reason : String) (timer : Timer) :
    service.timerAfter operation (.refused reason) timer = timer := by
  cases asked : service.asked? operation <;> simp [timerAfter, asked]

/-- What waits for the timer is not done if the timer refuses it. -/
theorem perform_refused (patient : ¬ service.Hasty operation) (reason : String) :
    (service.perform operation (.refused reason)).2 = service := by
  cases operation with
  | start =>
      by_cases idle : (!service.settings.enabled || service.running) = true
      · simp [perform, start, idle]
      · -- Only a service that has stopped asks to start, so its flag goes back to what it was.
        have stopped : service.running = false := by
          simp only [Bool.or_eq_true, not_or, Bool.not_eq_true] at idle
          exact idle.2
        rw [perform, start, if_neg idle]
        change { service with running := false } = service
        rw [← stopped]
  | shutdown => rw [perform_shutdown_stopped (Bool.eq_false_iff.mpr patient)]
  | add job => by_cases never : job.interval = 0 <;> simp [perform, add, never, TimerReply.result]
  | remove id =>
      have unknown : service.job? id = none := by simpa [Hasty] using patient
      rw [perform_remove_unknown unknown]

/-- Without a refusal an operation only fails for what it is given, and then does nothing. -/
theorem perform_done_of_failed {failure : Failure}
    (failed : (service.perform operation .done).1 = .error failure) :
    ¬ service.Hasty operation ∧ (service.perform operation .done).2 = service := by
  cases operation with
  | start =>
      by_cases idle : (!service.settings.enabled || service.running) = true <;>
        simp [perform, start, idle, TimerReply.result] at failed
  | shutdown =>
      cases running : service.running <;>
        simp [perform, shutdown, running, TimerReply.result] at failed
  | add job =>
      by_cases never : job.interval = 0
      · exact ⟨id, by simp [perform, add, never]⟩
      · simp [perform, add, never, TimerReply.result, Except.map] at failed
  | remove gone =>
      cases known : service.job? gone with
      | none => exact ⟨by simp [Hasty, known], by rw [perform_remove_unknown known]⟩
      | some job => simp [perform, remove, known, TimerReply.result] at failed

theorem inStep_perform_done {timer : Timer} (inStep : service.InStep timer)
    (operation : Operation τ) :
    (service.perform operation .done).2.InStep (service.timerAfter operation .done timer) := by
  cases operation with
  | start =>
      by_cases idle : (!service.settings.enabled || service.running) = true
      · simp [perform, start, timerAfter, asked?, idle, inStep]
      · simp only [perform, start, timerAfter, asked?, if_neg idle]
        exact ⟨rfl, inStep.scheduled⟩
  | shutdown =>
      cases running : service.running with
      | false => simp [perform, shutdown, timerAfter, asked?, running, inStep]
      | true =>
          simp only [perform, shutdown, timerAfter, asked?, running, if_true]
          exact ⟨rfl, inStep.scheduled⟩
  | add job =>
      by_cases never : job.interval = 0
      · simp [perform, add, timerAfter, asked?, never, inStep]
      · simp only [perform, add, timerAfter, asked?, if_neg never, TimerReply.result]
        exact ⟨inStep.running, by simp [inStep.scheduled]⟩
  | remove gone =>
      cases known : service.job? gone with
      | none => simp [perform, remove, timerAfter, asked?, known, inStep]
      | some job =>
          simp only [perform, remove, timerAfter, asked?, known, Option.isSome_some, if_true]
          refine ⟨inStep.running, ?_⟩
          rw [← inStep.scheduled, List.filter_map]
          rfl

/-- The service and the timer agree after every operation but those that the timer refuses when
they are already done in the service. -/
theorem inStep_perform {timer : Timer} (inStep : service.InStep timer)
    (agreed : service.Hasty operation → reply = .done) :
    (service.perform operation reply).2.InStep (service.timerAfter operation reply timer) := by
  cases reply with
  | done => exact inStep_perform_done inStep operation
  | refused reason =>
      have patient : ¬ service.Hasty operation := fun hasty => nomatch agreed hasty
      rw [perform_refused patient, timerAfter_refused]
      exact inStep

/-- What a failed operation leaves behind. -/
structure Aftermath (service : Service τ) (operation : Operation τ) (reply : TimerReply)
    (after : Service τ) : Prop where
  unchanged : ¬ service.Hasty operation → after = service
  /-- A service that could not be stopped takes itself for stopped, and does not try again. -/
  stopped : operation = .shutdown → service.Hasty operation →
    after = { service with running := false } ∧
      ∀ retry, after.perform .shutdown retry = (.ok (), after)
  /-- A job that could not be removed is no longer known, and cannot be removed again. -/
  forgotten : ∀ id, operation = .remove id → service.Hasty operation →
    after = service.without id ∧
      ∀ retry, after.perform (.remove id) retry = (.error (.schedule (.unknownJob id)), after)
  inStep : ∀ timer, service.InStep timer →
    (after.InStep (service.timerAfter operation reply timer) ↔ ¬ service.Hasty operation)

theorem refused_of_hasty {failure : Failure} (hasty : service.Hasty operation)
    (failed : (service.perform operation reply).1 = .error failure) :
    ∃ reason, reply = .refused reason := by
  cases reply with
  | done => exact absurd hasty (perform_done_of_failed failed).1
  | refused reason => exact ⟨reason, rfl⟩

/-- What the service has already done, the timer has not. -/
theorem not_inStep_of_hasty {timer : Timer} (inStep : service.InStep timer)
    (hasty : service.Hasty operation) (reason : String) :
    ¬ (service.perform operation (.refused reason)).2.InStep timer := by
  intro still
  cases operation with
  | start | add => contradiction
  | shutdown =>
      have firing := inStep.running
      rw [hasty, ← still.running, perform_shutdown hasty] at firing
      contradiction
  | remove id =>
      have known := isSome_job?_iff.mp hasty
      rw [inStep.scheduled, ← still.scheduled, ← isSome_job?_iff, perform_remove hasty,
        job?_without_self] at known
      contradiction

theorem aftermath_of_failed {failure : Failure}
    (failed : (service.perform operation reply).1 = .error failure) :
    service.Aftermath operation reply (service.perform operation reply).2 where
  unchanged patient := by
    cases reply with
    | done => exact (perform_done_of_failed failed).2
    | refused reason => exact perform_refused patient reason
  stopped asked hasty := by
    subst asked
    rw [perform_shutdown hasty]
    exact ⟨rfl, fun retry => perform_shutdown_stopped rfl retry⟩
  forgotten id asked hasty := by
    subst asked
    rw [perform_remove hasty]
    exact ⟨rfl, fun retry => perform_remove_unknown (job?_without_self service id) retry⟩
  inStep timer inStep := by
    constructor
    · intro still hasty
      obtain ⟨reason, rfl⟩ := refused_of_hasty hasty failed
      rw [timerAfter_refused] at still
      exact not_inStep_of_hasty inStep hasty reason still
    · exact fun patient => inStep_perform inStep fun hasty => absurd hasty patient

/-- A service that the timer does not let start. -/
theorem aftermath_of_refused_start :
    let service : Service Unit := { settings := {} }
    (service.perform .start (.refused "tick")).1 = .error (.schedule (.timer "tick")) ∧
      service.Aftermath .start (.refused "tick")
        (service.perform .start (.refused "tick")).2 := by
  intro service
  have failed : (service.perform .start (.refused "tick")).1 =
      .error (.schedule (.timer "tick")) := rfl
  exact ⟨failed, aftermath_of_failed failed⟩

/-- The timer refuses to remove a job and to stop. It goes on with the job, which the service no
longer knows, and fires on behalf of a service that takes itself for stopped. -/
theorem refused_requests_forgotten :
    let service : Service Unit :=
      { settings := {}
        running := true
        jobs := [(0, { name := "news", interval := 1000, task := () })]
        next := 1 }
    let timer : Timer := ⟨true, [0]⟩
    service.InStep timer ∧
      (service.perform (.remove 0) (.refused "busy")).1 = .error (.schedule (.timer "busy")) ∧
      service.timerAfter (.remove 0) (.refused "busy") timer = timer ∧
      (service.report? 0).isSome = true ∧
      (service.perform (.remove 0) (.refused "busy")).2.report? 0 = none ∧
      ((service.perform (.remove 0) (.refused "busy")).2.perform (.remove 0) .done).1 =
        .error (.schedule (.unknownJob 0)) ∧
      (service.perform .shutdown (.refused "busy")).1 = .error (.schedule (.timer "busy")) ∧
      service.timerAfter .shutdown (.refused "busy") timer = timer ∧
      (service.perform .shutdown (.refused "busy")).2.running = false :=
  ⟨⟨rfl, rfl⟩, rfl, rfl, rfl, rfl, rfl, rfl, rfl, rfl⟩

end Service

end Retrieval.Schedule
