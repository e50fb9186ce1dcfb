import Retrieval.Proofs.Schedule.Service
import Retrieval.Proofs.Suggestion.Settings
import Retrieval.Workspace

namespace Retrieval

open Suggestion

/-- A job that is to run again and again is registered if the timer takes it. -/
theorem Schedule.Service.add_fst {service : Service τ} {job : Job τ} (repeated : job.interval ≠ 0)
    (reply : TimerReply) : (service.add job reply).1 = reply.result.map fun _ => service.next := by
  unfold add
  rw [if_neg repeated]
  cases reply.result <;> rfl

namespace Workspace

variable {workspace : Workspace} {number : Nat} {slot : Slot} {sweep : Nat → Sweep}

theorem addJob_fst {job : Schedule.Job Task} (repeated : job.interval ≠ 0) :
    (workspace.addJob job).1 = .ok workspace.service.next :=
  Schedule.Service.add_fst repeated .done

theorem interval_ne_zero {seconds : Nat} (repeated : seconds ≠ 0) :
    (cleanupJob number (seconds * nanosPerSecond) sweep).interval ≠ 0 := by
  have positive : nanosPerSecond ≠ 0 := by decide
  exact Nat.mul_ne_zero repeated positive

theorem scheduleCleanup_fst (repeated : slot.store.settings.cleanupSeconds ≠ 0) :
    (workspace.scheduleCleanup number slot sweep).1 =
      .ok (if workspace.service.settings.suggestionCleanup then some workspace.service.next
        else none) := by
  have interval : (cleanupJob number
      (slot.store.settings.cleanupSeconds * nanosPerSecond) sweep).interval ≠ 0 :=
    interval_ne_zero repeated
  unfold scheduleCleanup
  -- The job stays closed, so that nothing multiplies out its interval.
  generalize cleanupJob number (slot.store.settings.cleanupSeconds * nanosPerSecond) sweep = job
    at interval ⊢
  have taken : (workspace.addJob job).1 = .ok workspace.service.next := addJob_fst interval
  cases added : workspace.addJob job with
  | mk result after =>
      rw [added] at taken
      cases taken
      split <;> rfl

end Workspace

theorem Suggestion.Store.create_eq_ok {settings : Settings} {store : Store}
    (made : Store.create settings = .ok store) :
    settings.check = .ok () ∧ store.settings = settings := by
  obtain ⟨usable, same⟩ := check_bind_eq_ok_iff.mp made
  cases same
  exact ⟨usable, rfl⟩

/-- Settings are accepted exactly if they are within their limits. The time between cleanups, given
or not, is within its own then. So the cleanup of a store that can be made is scheduled if cleanups
are, whatever has happened to the store, and it is for the timer alone to refuse the job. -/
theorem Suggestion.Settings.cleanup_scheduled (settings : Settings) :
    (settings.check = .ok () ↔ settings.Sensible) ∧
      (settings.check = .ok () → settings.Prompt settings.cleanupSeconds) ∧
      ∀ store, Store.create settings = .ok store →
        ∀ (workspace : Workspace) (number : Nat) (slot : Workspace.Slot) (sweep : Nat → Sweep),
          slot.store.settings = store.settings →
          (workspace.scheduleCleanup number slot sweep).1 =
              .ok (if workspace.service.settings.suggestionCleanup then
                some workspace.service.next else none) ∧
            ∀ reply, (workspace.service.add (Workspace.cleanupJob number
                (slot.store.settings.cleanupSeconds * nanosPerSecond) sweep) reply).1 =
              reply.result.map fun _ => workspace.service.next := by
  refine ⟨check_eq_ok_iff_sensible, fun usable => ?_, fun store made => ?_⟩
  · exact (check_eq_ok_iff_sensible.mp usable).prompt_cleanupSeconds
  · intro workspace number slot sweep same
    obtain ⟨usable, kept⟩ := Store.create_eq_ok made
    have repeated : slot.store.settings.cleanupSeconds ≠ 0 := by
      rw [same, kept]
      have prompt := (check_eq_ok_iff_sensible.mp usable).prompt_cleanupSeconds
      exact Nat.one_le_iff_ne_zero.mp prompt.1
    exact ⟨Workspace.scheduleCleanup_fst repeated,
      Schedule.Service.add_fst (Workspace.interval_ne_zero repeated)⟩

/-- Half of an odd number of seconds is rounded down. -/
theorem Suggestion.Settings.cleanup_scheduled_within_minute :
    let settings : Settings := { ttl := 61 }
    let store : Store := { settings }
    let workspace : Workspace :=
      { wall := { second := 0 }, clock := { second := 0 }, service := { settings := {} } }
    settings.check = .ok () ∧ settings.cleanupSeconds = 30 ∧ settings.Prompt 30 ∧
      Store.create settings = .ok store ∧
      (workspace.scheduleCleanup 0 { store, source := .manual } fun _ => {}).1 = .ok (some 0) ∧
      (workspace.service.add
        (Workspace.cleanupJob 0 (settings.cleanupSeconds * nanosPerSecond) fun _ => {})
        (.refused "full")).1 = .error (.schedule (.timer "full")) := by
  intro settings store workspace
  have usable : settings.check = .ok () := rfl
  have seconds : settings.cleanupSeconds = 30 := by decide
  obtain ⟨_, prompt, scheduled⟩ := cleanup_scheduled settings
  obtain ⟨taken, answered⟩ :=
    scheduled store rfl workspace 0 { store, source := .manual } (fun _ => {}) rfl
  exact ⟨usable, seconds, seconds ▸ prompt usable, rfl, taken, answered (.refused "full")⟩

/-- Half of a second is no time between cleanups, so it is a whole one, given or not. -/
theorem Suggestion.Settings.second_accepted_for_second :
    let given : Settings := { ttl := 1, cleanupInterval := some 1 }
    let standard : Settings := { ttl := 1 }
    given.check = .ok () ∧ given.cleanupSeconds = 1 ∧ ¬ 2 * (1 : Int) ≤ given.ttl ∧
      standard.check = .ok () ∧ standard.cleanupSeconds = 1 ∧
      ¬ 2 * (standard.cleanupSeconds : Int) ≤ standard.ttl := by
  decide

end Retrieval
