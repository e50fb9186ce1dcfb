import Retrieval.Proofs.Suggestion.History

namespace Retrieval.Suggestion.Session

variable {calls : List Call} {call : Call}

/-- The call indexes a place that was not held. -/
def Call.creates (call : Call) : Bool :=
  match call.event.place? with
  | some (name, text) => (call.before.store.held? name text).isNone
  | none => false

/-- The number that the call answers if it is a cleanup. -/
def Call.removed (call : Call) : Nat :=
  match call.answer with
  | .removed count => count
  | _ => 0

/-- The counts of a store that has been through some calls. -/
structure Balanced (calls : List Call) (store : Store) : Prop where
  taken : store.GroupsTaken
  gauge : store.gauge = store.entryCount
  created : calls.countP Call.creates = store.entryCount + (calls.map Call.removed).sum

theorem balanced_nil (settings : Settings) : Balanced [] { settings } where
  taken _ _ found := by contradiction
  gauge := rfl
  created := rfl

theorem removed_eq_zero (other : call.event ≠ .cleanup) : call.removed = 0 := by
  obtain ⟨before, event⟩ := call
  cases event with
  | index text group =>
      simp only [Call.removed, Call.answer, step]
      cases before.store.index before.clock text group with
      | ok => rfl
      | error => rfl
  | lookup => rfl
  | cleanup => contradiction
  | moveClock => rfl

theorem removed_cleanup (cleanup : call.event = .cleanup) :
    call.removed = call.before.store.entryCount -
      (call.before.store.swept call.before.clock).entryCount := by
  obtain ⟨before, event⟩ := call
  cases cleanup
  rfl

theorem countP_creates_concat (calls : List Call) (call : Call) :
    (calls ++ [call]).countP Call.creates =
      calls.countP Call.creates + if call.creates then 1 else 0 := by
  simp [List.countP_append, List.countP_singleton]

theorem sum_removed_concat (calls : List Call) (call : Call) :
    ((calls ++ [call]).map Call.removed).sum = (calls.map Call.removed).sum + call.removed := by
  simp

/-- The books of the store after a call, given how the call changes its counts. -/
theorem Balanced.concat {after : Store} (balanced : Balanced calls call.before.store)
    (taken : after.GroupsTaken) (gauge : after.gauge = after.entryCount)
    (change : after.entryCount + call.removed =
      call.before.store.entryCount + if call.creates then 1 else 0) :
    Balanced (calls ++ [call]) after where
  taken := taken
  gauge := gauge
  created := by
    have created := balanced.created
    rw [countP_creates_concat, sum_removed_concat]
    omega

theorem Balanced.step (balanced : Balanced calls call.before.store) :
    Balanced (calls ++ [call]) (call.before.step call.event).2.store := by
  rcases step_cases call.before call.event with
    ⟨name, text, indexes, after⟩ | ⟨cleanup, after⟩ | ⟨quiet, other, after⟩
  · have other : call.event ≠ .cleanup := by
      intro cleanup
      rw [cleanup] at indexes
      contradiction
    have creates : call.creates = (call.before.store.held? name text).isNone := by
      simp only [Call.creates, indexes]
    rw [after]
    refine balanced.concat (Store.groupsTaken_written balanced.taken) ?_ ?_
    · rw [Store.entryCount_written, ← balanced.gauge]
      simp only [Store.written]
      split <;> rfl
    · rw [removed_eq_zero other, creates, Store.entryCount_written, Nat.add_zero]
  · have creates : call.creates = false := by
      simp only [Call.creates, cleanup, Event.place?]
    have fewer : (call.before.store.swept call.before.clock).entryCount ≤
        call.before.store.entryCount := Store.entryCount_swept_le
    have same : (call.before.store.cleanup call.before.clock).2.entryCount =
        (call.before.store.swept call.before.clock).entryCount := rfl
    rw [after]
    refine balanced.concat Store.groupsTaken_swept rfl ?_
    rw [removed_cleanup cleanup, creates, same, if_neg Bool.false_ne_true]
    omega
  · have creates : call.creates = false := by
      simp only [Call.creates, quiet]
    rw [after]
    refine balanced.concat balanced.taken balanced.gauge ?_
    rw [removed_eq_zero other, creates, if_neg Bool.false_ne_true]

theorem balanced_run (settings : Settings) (clock : Instant) (events : List Event) :
    Balanced ((start settings clock).calls events) ((start settings clock).run events).store := by
  induction events using List.reverseRecOn with
  | nil => exact balanced_nil settings
  | append_singleton events event induction =>
      rw [run_concat, calls_concat]
      exact induction.step

/-- What is known of a store after a run. Held are exactly the places that have been indexed and
whose last such call no later cleanup has evicted. -/
structure Accounted (calls : List Call) (session : Session) : Prop where
  held : ∀ name text stamp, (session.store.held? name text).map Entry.stamp = some stamp ↔
    ∃ position, LastIndexed calls (name, text) position stamp ∧ ¬Evicted calls position stamp
  distinct : ∀ name text entry otherName otherText other,
    session.store.held? name text = some entry →
    session.store.held? otherName otherText = some other →
    entry.order = other.order → (name, text) = (otherName, otherText)
  /-- The orders of two entries compare like the calls that they were indexed by last. -/
  ordered : ∀ name text entry position otherName otherText other otherPosition,
    session.store.held? name text = some entry →
    session.store.held? otherName otherText = some other →
    LastIndexed calls (name, text) position entry.stamp →
    LastIndexed calls (otherName, otherText) otherPosition other.stamp →
    (entry.order < other.order ↔ position < otherPosition)
  /-- A call that lacks a text or a group is refused and changes nothing, and only such a call. -/
  refused : ∀ text group, if Text.trim text = "" ∨ Text.trim group = "" then
      session.step (.index text group) =
        (.indexed (.error (if Text.trim text = "" then .blankText else .blankGroup)), session)
    else ∃ next, session.step (.index text group) = (.indexed (.ok ()), next)
  listed : ∀ name text entry,
    (name, text, entry) ∈ session.store.entries ↔ session.store.held? name text = some entry
  listedOnce : (session.store.entries.map fun place => (place.1, place.2.1)).Nodup
  taken : session.store.GroupsTaken
  isEmpty : session.store.isEmpty = true ↔ session.store.entryCount = 0
  groupCount :
    session.store.groupCount = (session.store.entries.map Prod.fst).dedup.length
  gauge : session.store.gauge = session.store.entryCount
  created :
    calls.countP Call.creates = session.store.entryCount + (calls.map Call.removed).sum

/-- The books of a new store agree after every run, whichever way its clock is moved. -/
theorem run_accounted (settings : Settings) (clock : Instant) (events : List Event) :
    Accounted ((start settings clock).calls events) ((start settings clock).run events) := by
  have recorded := recorded_run settings clock events
  obtain ⟨taken, gauge, created⟩ := balanced_run settings clock events
  exact {
    held := recorded.stamp_eq_some_iff
    distinct := fun _ _ _ _ _ _ => recorded.ordered.distinct
    ordered := fun _ _ _ _ _ _ _ _ => recorded.order_lt_iff
    refused := step_index _
    listed := fun _ _ _ => Store.mem_entries_iff
    listedOnce := Store.nodup_places
    taken := taken
    isEmpty := Store.isEmpty_iff taken
    groupCount := Store.groupCount_eq taken
    gauge := gauge
    created := created }

end Retrieval.Suggestion.Session
