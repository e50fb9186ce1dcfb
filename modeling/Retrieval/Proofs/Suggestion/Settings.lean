import Retrieval.Proofs.Outcome
import Retrieval.Suggestion.Settings

namespace Retrieval.Suggestion.Settings

variable {settings : Settings}

theorem limitsOutOfRange_eq_nil_iff :
    settings.limitsOutOfRange = [] ↔ ∀ limit, settings.inRange limit = true := by
  rw [limitsOutOfRange, List.filter_eq_nil_iff]
  constructor
  · intro within limit
    cases limit <;> simpa using within _ (by decide)
  · intro within limit _
    simp [within limit]

theorem check_eq_ok_iff :
    settings.check = .ok () ↔
      0 < settings.ttl ∧ settings.ttl ≤ longestTtl ∧
        (∀ limit, settings.inRange limit = true) ∧ settings.defaultSize ≤ settings.maxSize ∧
        ∀ interval, settings.cleanupInterval = some interval →
          interval ≠ 0 ∧ interval ≤ settings.longestCleanup := by
  rw [← limitsOutOfRange_eq_nil_iff, check]
  cases settings.cleanupInterval with
  | none =>
      simp only [throw_bind, ite_throw_eq_ok_iff]
      simp [pure, Except.pure]
  | some interval =>
      simp only [throw_bind, ite_throw_eq_ok_iff]
      simp [pure, Except.pure]

/-- A time between cleanups of a second at least and half the time to live at most. There is none
for entries that live for a second only; these are cleaned up after a second. -/
def Prompt (settings : Settings) (interval : Nat) : Prop :=
  1 ≤ interval ∧ (2 * (interval : Int) ≤ settings.ttl ∨ settings.ttl = 1 ∧ interval = 1)

/-- The limits that accepted settings are within. -/
structure Sensible (settings : Settings) : Prop where
  lasting : 1 ≤ settings.ttl
  passing : settings.ttl ≤ longestTtl
  someByDefault : 1 ≤ settings.defaultSize
  room : settings.defaultSize ≤ settings.maxSize
  fewEdits : settings.maxEdits ≤ 2
  prompt : ∀ interval, settings.cleanupInterval = some interval → settings.Prompt interval

theorem le_longestCleanup_iff {interval : Nat} (lasting : 1 ≤ settings.ttl) :
    interval ≠ 0 ∧ interval ≤ settings.longestCleanup ↔ settings.Prompt interval := by
  unfold longestCleanup ttlSeconds Prompt
  omega

theorem check_eq_ok_iff_sensible : settings.check = .ok () ↔ settings.Sensible := by
  rw [check_eq_ok_iff]
  constructor
  · rintro ⟨lasting, passing, within, room, cleanups⟩
    exact
      { lasting := lasting
        passing := passing
        someByDefault := of_decide_eq_true (within .defaultSize)
        room := room
        fewEdits := of_decide_eq_true (within .maxEdits)
        prompt := fun interval given =>
          (le_longestCleanup_iff lasting).mp (cleanups interval given) }
  · rintro ⟨lasting, passing, someByDefault, room, fewEdits, prompt⟩
    refine ⟨lasting, passing, fun limit => ?_, room, fun interval given => ?_⟩
    · cases limit with
      | defaultSize => exact decide_eq_true someByDefault
      | maxEdits => exact decide_eq_true fewEdits
      | maxSize => exact decide_eq_true (Nat.le_trans someByDefault room)
    · exact (le_longestCleanup_iff lasting).mpr (prompt interval given)

/-- The time between cleanups that holds if none is given obeys the same limits as a given one. -/
theorem Sensible.prompt_cleanupSeconds (sensible : settings.Sensible) :
    settings.Prompt settings.cleanupSeconds := by
  unfold cleanupSeconds
  cases given : settings.cleanupInterval with
  | some interval => exact sensible.prompt interval given
  | none =>
      have positive : settings.longestCleanup ≠ 0 := by
        unfold longestCleanup
        omega
      exact (le_longestCleanup_iff sensible.lasting).mp ⟨positive, Nat.le_refl _⟩

end Retrieval.Suggestion.Settings
