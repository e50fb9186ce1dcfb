import Retrieval.Instant

/-!
Added seconds in the order of time. An instant within one comes before the next second, but a span
is taken back from it as from that second. So of two instants the earlier one may lead to the later
limit, and whether a stamp lies before a limit depends on how either of them is counted.
-/

namespace Retrieval.Instant

variable {instant stamp limit : Instant} {count span : Int}

theorem isAdded_eq_false_iff : instant.isAdded = false ↔ instant.nanos < nanosPerSecond := by
  rw [isAdded, decide_eq_false_iff_not, Nat.not_le]

/-- The last nanosecond up to an instant that is not in an added second. -/
def floor (instant : Instant) : Int :=
  instant.second * nanosPerSecond + min instant.nanos (nanosPerSecond - 1 : Nat)

theorem floor_eq_ticks (regular : instant.isAdded = false) : instant.floor = instant.ticks := by
  rw [isAdded_eq_false_iff] at regular
  simp only [nanosPerSecond] at regular
  simp only [floor, ticks, nanosPerSecond]
  omega

theorem lt_iff_floor_lt (regular : limit.isAdded = false) :
    stamp < limit ↔ stamp.floor < limit.ticks := by
  rw [isAdded_eq_false_iff] at regular
  change stamp.second < limit.second ∨ stamp.second = limit.second ∧ stamp.nanos < limit.nanos ↔ _
  simp only [nanosPerSecond] at regular
  simp only [floor, ticks, nanosPerSecond]
  omega

theorem ticks_le_of_not_lt (regular : instant.isAdded = false) (notLater : ¬limit < instant) :
    instant.ticks ≤ limit.ticks := by
  rw [isAdded_eq_false_iff] at regular
  change ¬(limit.second < instant.second ∨
    limit.second = instant.second ∧ limit.nanos < instant.nanos) at notLater
  simp only [nanosPerSecond] at regular
  simp only [ticks, nanosPerSecond]
  omega

theorem first_le_floor (instant : Instant) : firstSecond * nanosPerSecond ≤ instant.floor := by
  have notEarlier := instant.notEarlier
  simp only [floor, nanosPerSecond]
  omega

theorem ticks_sub_lt (instant : Instant) :
    instant.ticks - nanosPerSecond < (lastSecond + 1) * nanosPerSecond := by
  have notLater := instant.notLater
  have short := instant.short
  simp only [nanosPerSecond] at short
  simp only [ticks, nanosPerSecond]
  omega

/-- Whole numbers of nanoseconds are the instants outside added seconds. -/
theorem ofTicks?_eq_some_iff :
    ofTicks? count = some instant ↔ instant.isAdded = false ∧ instant.ticks = count := by
  rw [isAdded_eq_false_iff]
  obtain ⟨second, nanos, notEarlier, notLater, short⟩ := instant
  simp only [ofTicks?, of?, Option.dite_none_right_eq_some, Option.some.injEq, mk.injEq,
    exists_prop, ticks]
  simp only [nanosPerSecond] at short ⊢
  omega

theorem exists_ofTicks? (notEarlier : firstSecond * nanosPerSecond ≤ count)
    (notLater : count < (lastSecond + 1) * nanosPerSecond) :
    ∃ instant, ofTicks? count = some instant := by
  refine ⟨_, dif_pos ?_⟩
  simp only [nanosPerSecond] at notEarlier notLater ⊢
  omega

/-- A second back leads out of any added one. -/
theorem later?_neg (long : nanosPerSecond ≤ span) :
    instant.later? (-span) = ofTicks? (instant.ticks - span) := by
  have short := instant.short
  unfold later?
  split
  · rw [if_neg (by simp only [nanosPerSecond] at *; omega), if_pos (by omega), Int.sub_eq_add_neg]
  · rw [Int.sub_eq_add_neg]

/-- Between instants outside added seconds, the distance is the plain one. -/
theorem nanosBetween_eq {start finish : Instant} (regular : start.isAdded = false)
    (regularFinish : finish.isAdded = false) :
    nanosBetween start finish = finish.ticks - start.ticks := by
  simp only [nanosBetween, addedBetween, regular, regularFinish, Bool.and_false,
    Bool.false_eq_true, if_false, ticks, nanosPerSecond]
  omega

end Retrieval.Instant
