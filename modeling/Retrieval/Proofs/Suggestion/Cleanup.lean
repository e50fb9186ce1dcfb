import Retrieval.Proofs.Suggestion.History
import Retrieval.Proofs.Suggestion.Ranking
import Retrieval.Proofs.Suggestion.Settings

/-!
Cleanups cannot be seen. An expired entry never counts again for a lookup that is not made earlier
than the cleanups before it, so it makes no difference whether the entry is still there.
-/

namespace Retrieval.Suggestion

namespace Store

variable {left right store : Store} {now reading : Instant} {name text : String} {entry : Entry}

theorem live?_swept_of_later (lasting : 0 < store.settings.ttl)
    (later : now.ticks ≤ reading.ticks) :
    (store.swept now).live? reading name text = store.live? reading name text := by
  have lives : (store.swept now).isLive reading = store.isLive reading := isLive_congr rfl
  unfold live?
  rw [held?_swept, Option.filter_filter, lives]
  congr 1
  funext entry
  cases live : store.isLive reading entry with
  | false => exact Bool.and_false _
  | true => rw [isLive_of_later lasting later live, Bool.and_self]

theorem live?_written (otherName otherText : String) :
    (store.written now text name).live? reading otherName otherText =
      if (otherName, otherText) = (name, text) then
        (some ⟨now, store.indexed⟩).filter (store.isLive reading)
      else store.live? reading otherName otherText := by
  have lives : (store.written now text name).isLive reading = store.isLive reading :=
    isLive_congr rfl
  unfold live?
  rw [held?_written, lives]
  split <;> rfl

end Store

/-- The reading that the clock is moved to. -/
def Event.reading? : Event → Option Instant
  | .moveClock reading => some reading
  | _ => none

def Event.isLookup : Event → Bool
  | .lookup _ _ _ => true
  | _ => false

namespace Session

variable {left right session : Session} {event : Event} {events : List Event} {clock : Instant}
  {allowed still : Instant → Prop} {calls : List Call} {call : Call}

theorem step_clock (session : Session) (event : Event) :
    (session.step event).2.clock = event.reading?.getD session.clock := by
  cases event with
  | index text group =>
      simp only [step]
      cases session.store.index session.clock text group with
      | ok => rfl
      | error => rfl
  | lookup => rfl
  | cleanup => rfl
  | moveClock => rfl

theorem clock_mem_of_mem_calls (called : call ∈ session.calls events) :
    call.before.clock ∈ session.clock :: events.filterMap Event.reading? := by
  induction events generalizing session with
  | nil => contradiction
  | cons event rest induction =>
      rcases List.mem_cons.mp called with rfl | later
      · exact List.mem_cons_self
      · have member := induction later
        rw [step_clock] at member
        cases moves : event.reading? with
        | none => simpa [moves] using member
        | some reading =>
            rw [moves, Option.getD_some] at member
            rw [List.filterMap_cons_some moves]
            exact List.mem_cons_of_mem _ member

/-- The reading is not before a cleanup, where an added second counts like the one after it. -/
def PastCleanups (calls : List Call) (reading : Instant) : Prop :=
  ∀ call ∈ calls, call.event = .cleanup → call.before.clock.ticks ≤ reading.ticks

/-- No lookup is made before a cleanup that came earlier in the run, where an added second counts
like the one after it. -/
def Settled (calls : List Call) : Prop :=
  calls.Pairwise fun earlier later => earlier.event = .cleanup → later.event.isLookup = true →
    earlier.before.clock.ticks ≤ later.before.clock.ticks

theorem settled_concat : Settled (calls ++ [call]) ↔
    Settled calls ∧ (call.event.isLookup = true → PastCleanups calls call.before.clock) := by
  simp only [Settled, PastCleanups, List.pairwise_append, List.pairwise_singleton, true_and,
    List.mem_singleton, forall_eq]
  exact and_congr_right fun _ =>
    ⟨fun each looks other member cleanup => each other member cleanup looks,
      fun each other member cleanup looks => each looks other member cleanup⟩

/-- A clock that does not go back, where an added second counts like the one after it. -/
def Forward (clock : Instant) (events : List Event) : Prop :=
  (clock :: events.filterMap Event.reading?).Pairwise fun earlier later =>
    earlier.ticks ≤ later.ticks

instance (clock : Instant) (events : List Event) : Decidable (Forward clock events) :=
  inferInstanceAs (Decidable (List.Pairwise _ _))

/-- Under such a clock cleanups may be made at any time. -/
theorem Forward.settled (forward : Forward session.clock events) :
    Settled (session.calls events) := by
  induction events generalizing session with
  | nil => exact List.Pairwise.nil
  | cons event rest induction =>
      obtain ⟨fromNow, _⟩ := List.pairwise_cons.mp forward
      have next : Forward (session.step event).2.clock rest := by
        rw [step_clock]
        cases moves : event.reading? with
        | none => simpa [Forward, moves] using forward
        | some reading =>
            simpa [Forward, List.filterMap_cons_some moves] using (List.pairwise_cons.mp forward).2
      refine List.pairwise_cons.mpr ⟨fun later called _ _ => ?_, induction next⟩
      have member : later.before.clock ∈
          session.clock :: (event :: rest).filterMap Event.reading? :=
        clock_mem_of_mem_calls (List.mem_cons_of_mem _ called)
      rcases List.mem_cons.mp member with same | moved
      · exact Int.le_of_eq (congrArg Instant.ticks same.symm)
      · exact fromNow _ moved

/-- The sessions find the same texts alive at the readings that are still allowed. -/
structure SameLive (allowed : Instant → Prop) (left right : Session) : Prop where
  clock : right.clock = left.clock
  settings : right.store.settings = left.store.settings
  indexed : right.store.indexed = left.store.indexed
  live : ∀ reading, allowed reading → ∀ name text,
    right.store.live? reading name text = left.store.live? reading name text

theorem SameLive.cleanup (same : SameLive allowed left right)
    (lasting : 0 < left.store.settings.ttl)
    (later : ∀ reading, still reading → allowed reading ∧ left.clock.ticks ≤ reading.ticks) :
    SameLive still (left.step .cleanup).2 right where
  clock := same.clock
  settings := same.settings
  indexed := same.indexed
  live reading given name text := by
    obtain ⟨before, after⟩ := later reading given
    exact (same.live reading before name text).trans
      (Store.live?_swept_of_later lasting after).symm

theorem SameLive.written {name text : String} (same : SameLive allowed left right)
    (place : event.place? = some (name, text)) :
    SameLive allowed (left.step event).2 (right.step event).2 := by
  rw [step_of_place place, step_of_place place]
  refine ⟨same.clock, same.settings, congrArg (· + 1) same.indexed, ?_⟩
  intro reading given other otherText
  simp only [Store.live?_written, same.clock, same.indexed, same.live reading given,
    Store.isLive_congr same.settings]

theorem SameLive.step (same : SameLive allowed left right) (other : event ≠ .cleanup) :
    SameLive allowed (left.step event).2 (right.step event).2 := by
  cases event with
  | index text group =>
      by_cases blank : Text.trim text = "" ∨ Text.trim group = ""
      · rw [step_of_blank blank, step_of_blank blank]
        exact same
      · exact same.written (if_neg blank)
  | lookup => exact same
  | cleanup => contradiction
  | moveClock reading => exact ⟨rfl, same.settings, same.indexed, same.live⟩

theorem SameLive.alike (same : SameLive allowed left right) (given : allowed left.clock) :
    Store.Alike (fun _ => True) id left.clock left.store right.store where
  settings := same.settings
  live name _ text := by
    rw [same.live _ given]
    exact Option.map_id'.symm
  increasing _ _ _ _ less := less

theorem SameLive.answer (same : SameLive allowed left right) (ordered : left.store.Ordered)
    (other : event ≠ .cleanup) (given : event.isLookup = true → allowed left.clock) :
    (right.step event).1 = (left.step event).1 := by
  cases event with
  | index text group =>
      by_cases blank : Text.trim text = "" ∨ Text.trim group = ""
      · rw [step_of_blank blank, step_of_blank blank]
      · have place : Event.place? (.index text group) = some (Text.trim group, Text.trim text) :=
          if_neg blank
        rw [step_of_place place, step_of_place place]
  | lookup wanted groups size =>
      have found : right.store.suggestIn left.clock wanted groups size =
          left.store.suggestIn left.clock wanted groups size :=
        Store.suggestIn_congr ordered (same.alike (given rfl)) fun _ _ => trivial
      simp only [Session.step, same.clock, found]
  | cleanup => contradiction
  | moveClock => rfl

/-- Events other than cleanups. -/
def withoutCleanups (events : List Event) : List Event :=
  events.filter fun event => event ≠ .cleanup

theorem settings_run (session : Session) (events : List Event) :
    (session.run events).store.settings = session.store.settings := by
  induction events generalizing session with
  | nil => rfl
  | cons event rest induction =>
      rw [run, induction]
      rcases step_cases session event with ⟨name, text, _, after⟩ | ⟨_, after⟩ | ⟨_, _, after⟩
      · rw [after]
        rfl
      · rw [after]
        rfl
      · rw [after]

variable {settings : Settings}

/-- A run and the same run without its cleanups lead to the same live texts, as far as one may
still look for them, and to the same answers. -/
theorem withoutCleanups_run (lasting : 0 < settings.ttl)
    (settled : Settled ((start settings clock).calls events)) :
    SameLive (PastCleanups ((start settings clock).calls events))
        ((start settings clock).run events)
        ((start settings clock).run (withoutCleanups events)) ∧
      observed (fun event => event ≠ .cleanup)
          ((start settings clock).calls (withoutCleanups events)) =
        observed (fun event => event ≠ .cleanup) ((start settings clock).calls events) := by
  induction events using List.reverseRecOn with
  | nil => exact ⟨⟨rfl, rfl, rfl, fun _ _ _ _ => rfl⟩, rfl⟩
  | append_singleton events event induction =>
      rw [calls_concat, settled_concat] at settled
      obtain ⟨before, lookable⟩ := settled
      obtain ⟨same, answers⟩ := induction before
      have ordered := (recorded_run settings clock events).ordered
      by_cases cleanup : event = .cleanup
      · subst cleanup
        have dropped : withoutCleanups (events ++ [.cleanup]) = withoutCleanups events := by
          simp [withoutCleanups]
        have leftLasting : 0 < ((start settings clock).run events).store.settings.ttl := by
          rw [settings_run]
          exact lasting
        rw [dropped, run_concat, calls_concat, observed_concat, answers]
        refine ⟨same.cleanup leftLasting fun reading past => ?_, by simp⟩
        exact ⟨fun call called => past call (List.mem_append_left _ called),
          past _ (List.mem_append_right _ List.mem_cons_self) rfl⟩
      · have kept : withoutCleanups (events ++ [event]) = withoutCleanups events ++ [event] := by
          simp [withoutCleanups, cleanup]
        have past : PastCleanups ((start settings clock).calls (events ++ [event])) =
            PastCleanups ((start settings clock).calls events) := by
          funext reading
          simp [PastCleanups, calls_concat, or_imp, forall_and, cleanup]
        rw [past, kept, run_concat, run_concat, calls_concat, calls_concat, observed_concat,
          observed_concat, answers]
        refine ⟨same.step cleanup, ?_⟩
        simp only [Call.answer, same.answer ordered cleanup lookable]

theorem ttl_pos_of_check (usable : settings.check = .ok ()) : 0 < settings.ttl :=
  (Settings.check_eq_ok_iff.mp usable).1

/-- Two runs that differ in their cleanups only get the same answers, if neither looks texts up
before a cleanup that it has made earlier. -/
theorem observed_eq_of_withoutCleanups_eq {first second : List Event}
    (usable : settings.check = .ok ())
    (settled : Settled ((start settings clock).calls first))
    (otherSettled : Settled ((start settings clock).calls second))
    (same : withoutCleanups first = withoutCleanups second) :
    observed (fun event => event ≠ .cleanup) ((start settings clock).calls first) =
      observed (fun event => event ≠ .cleanup) ((start settings clock).calls second) := by
  have lasting : 0 < settings.ttl := ttl_pos_of_check usable
  rw [← (withoutCleanups_run lasting settled).2, same,
    (withoutCleanups_run lasting otherSettled).2]

/-- An expired text that is indexed again is found alike, whether or not it was removed. -/
theorem observed_expired_tea :
    let clock : Instant := { second := 0 }
    let kept : List Event :=
      [.index "tea" "drinks", .moveClock { second := 2000000 }, .lookup "te" ["drinks"] none,
        .index " tea" "drinks", .lookup "te" ["drinks"] none]
    let cleaned : List Event :=
      [.index "tea" "drinks", .moveClock { second := 2000000 }, .cleanup,
        .lookup "te" ["drinks"] none, .index " tea" "drinks", .cleanup,
        .lookup "te" ["drinks"] none]
    Settings.check {} = .ok () ∧ Settled ((start {} clock).calls kept) ∧
      Settled ((start {} clock).calls cleaned) ∧
      withoutCleanups kept = withoutCleanups cleaned ∧
      observed (fun event => event ≠ .cleanup) ((start {} clock).calls kept) =
        observed (fun event => event ≠ .cleanup) ((start {} clock).calls cleaned) := by
  intro clock kept cleaned
  have usable : Settings.check {} = .ok () := rfl
  have settled : Settled ((start {} clock).calls kept) :=
    Forward.settled (show Forward clock kept by decide)
  have otherSettled : Settled ((start {} clock).calls cleaned) :=
    Forward.settled (show Forward clock cleaned by decide)
  have same : withoutCleanups kept = withoutCleanups cleaned := rfl
  exact ⟨usable, settled, otherSettled, same,
    observed_eq_of_withoutCleanups_eq usable settled otherSettled same⟩

/-- A cleanup within an added second removes what a lookup in the next second still finds. The
clock goes forward all the while. -/
theorem observed_ne_past_added_second :
    let settings : Settings := { ttl := 1 }
    let clock : Instant := { second := 86399, nanos := 200000000 }
    let added : Instant := { second := 86399, nanos := 1500000000 }
    let next : Instant := { second := 86400 }
    let kept : List Event :=
      [.index "tea" "drinks", .moveClock added, .moveClock next, .lookup "te" ["drinks"] none]
    let cleaned : List Event :=
      [.index "tea" "drinks", .moveClock added, .cleanup, .moveClock next,
        .lookup "te" ["drinks"] none]
    settings.check = .ok () ∧ clock < added ∧ added < next ∧
      withoutCleanups kept = withoutCleanups cleaned ∧
      observed (fun event => event ≠ .cleanup) ((start settings clock).calls kept) ≠
        observed (fun event => event ≠ .cleanup) ((start settings clock).calls cleaned) := by
  decide +kernel

end Session

end Retrieval.Suggestion
