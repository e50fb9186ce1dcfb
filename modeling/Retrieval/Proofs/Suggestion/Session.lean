import Retrieval.Proofs.Suggestion.Contents

namespace Retrieval.Suggestion

structure Session where
  clock : Instant
  store : Store

/-- What callers do. A lookup in one group is a lookup in a list of one. -/
inductive Event where
  | index (text group : String)
  | lookup (wanted : String) (groups : List String) (size : Option Nat)
  | cleanup
  | moveClock (reading : Instant)
  deriving DecidableEq

inductive Answer where
  | indexed (result : Except Store.Fault Unit)
  | found (hits : List Hit)
  | removed (count : Nat)
  | moved
  deriving DecidableEq

/-- The group and the text that an index call is about, if it is given both. -/
def Event.place? : Event → Option (String × String)
  | .index text group =>
      if Text.trim text = "" ∨ Text.trim group = "" then none
      else some (Text.trim group, Text.trim text)
  | _ => none

namespace Session

/-- A session with a new store. -/
def start (settings : Settings) (clock : Instant) : Session :=
  ⟨clock, { settings }⟩

def step (session : Session) : Event → Answer × Session
  | .index text group =>
      match session.store.index session.clock text group with
      | .ok store => (.indexed (.ok ()), { session with store })
      | .error fault => (.indexed (.error fault), session)
  | .lookup wanted groups size =>
      (.found (session.store.suggestIn session.clock wanted groups size), session)
  | .cleanup =>
      let (removed, store) := session.store.cleanup session.clock
      (.removed removed, { session with store })
  | .moveClock reading => (.moved, { session with clock := reading })

def run : Session → List Event → Session
  | session, [] => session
  | session, event :: rest => (session.step event).2.run rest

/-- An event and the session that it happened in. -/
structure Call where
  before : Session
  event : Event

def Call.answer (call : Call) : Answer :=
  (call.before.step call.event).1

def calls : Session → List Event → List Call
  | _, [] => []
  | session, event :: rest => ⟨session, event⟩ :: (session.step event).2.calls rest

/-- What the callers of some events see. -/
def observed (shown : Event → Bool) (calls : List Call) : List (Event × Answer) :=
  (calls.filter fun call => shown call.event).map fun call => (call.event, call.answer)

variable {session : Session} {event : Event}

theorem observed_concat (shown : Event → Bool) (calls : List Call) (call : Call) :
    observed shown (calls ++ [call]) =
      observed shown calls ++ if shown call.event then [(call.event, call.answer)] else [] := by
  cases seen : shown call.event <;> simp [observed, seen]

theorem run_concat (session : Session) (events : List Event) (event : Event) :
    session.run (events ++ [event]) = ((session.run events).step event).2 := by
  induction events generalizing session with
  | nil => rfl
  | cons first rest induction => exact induction (session.step first).2

theorem calls_concat (session : Session) (events : List Event) (event : Event) :
    session.calls (events ++ [event]) = session.calls events ++ [⟨session.run events, event⟩] := by
  induction events generalizing session with
  | nil => rfl
  | cons first rest induction =>
      exact congrArg (⟨session, first⟩ :: ·) (induction (session.step first).2)

theorem step_of_place {name text : String} (place : event.place? = some (name, text)) :
    session.step event =
      (.indexed (.ok ()),
        { session with store := session.store.written session.clock text name }) := by
  cases event with
  | index given group =>
      simp only [Event.place?] at place
      split at place
      · contradiction
      · rename_i named
        cases place
        simp only [step, Store.index_eq_ok named]
  | lookup => contradiction
  | cleanup => contradiction
  | moveClock => contradiction

theorem step_of_blank {text group : String} (blank : Text.trim text = "" ∨ Text.trim group = "") :
    session.step (.index text group) =
      (.indexed (.error (if Text.trim text = "" then .blankText else .blankGroup)), session) := by
  simp only [step, Store.index_eq_error blank]

/-- An index call is refused exactly if its text or its group is blank, and then nothing changes. -/
theorem step_index (session : Session) (text group : String) :
    if Text.trim text = "" ∨ Text.trim group = "" then
      session.step (.index text group) =
        (.indexed (.error (if Text.trim text = "" then .blankText else .blankGroup)), session)
    else ∃ next, session.step (.index text group) = (.indexed (.ok ()), next) := by
  split
  · rename_i blank
    exact step_of_blank blank
  · rename_i given
    have place : Event.place? (.index text group) = some (Text.trim group, Text.trim text) :=
      if_neg given
    exact ⟨_, step_of_place place⟩

/-- What one event does to the store: it writes a place, or it sweeps, or it does nothing. -/
theorem step_cases (session : Session) (event : Event) :
    (∃ name text, event.place? = some (name, text) ∧
      (session.step event).2.store = session.store.written session.clock text name) ∨
    (event = .cleanup ∧
      (session.step event).2.store = (session.store.cleanup session.clock).2) ∨
    (event.place? = none ∧ event ≠ .cleanup ∧ (session.step event).2.store = session.store) := by
  cases place : event.place? with
  | some found =>
      obtain ⟨name, text⟩ := found
      exact .inl ⟨name, text, rfl, by rw [step_of_place place]⟩
  | none =>
      cases event with
      | index text group =>
          have blank : Text.trim text = "" ∨ Text.trim group = "" := by
            by_contra given
            simp [Event.place?, given] at place
          exact .inr (.inr ⟨rfl, by simp, by rw [step_of_blank blank]⟩)
      | lookup => exact .inr (.inr ⟨rfl, by simp, rfl⟩)
      | cleanup => exact .inr (.inl ⟨rfl, rfl⟩)
      | moveClock => exact .inr (.inr ⟨rfl, by simp, rfl⟩)

end Session

end Retrieval.Suggestion
