import Mathlib.Data.List.Induction
import Retrieval.Proofs.Suggestion.Session

/-!
A store is determined by the calls that led to it. A place is held if it has been indexed and no
later cleanup has removed it, and its entry tells when and as which call it was indexed last.
-/

namespace Retrieval.Suggestion.Session

variable {calls : List Call} {call : Call} {place : String × String} {position : Nat}
variable {stamp : Instant}

/-- The last call that indexed the place has this position and was made at this instant. -/
structure LastIndexed (calls : List Call) (place : String × String) (position : Nat)
    (stamp : Instant) : Prop where
  indexed : ∃ call, calls[position]? = some call ∧ call.event.place? = some place ∧
    call.before.clock = stamp
  last : ∀ later call, position < later → calls[later]? = some call →
    call.event.place? ≠ some place

/-- The call is a cleanup that removes the entries of that stamp. -/
def Call.Evicts (call : Call) (stamp : Instant) : Prop :=
  call.event = .cleanup ∧ call.before.store.Expired call.before.clock stamp

/-- After this position there is a cleanup that removes the entries of that stamp. -/
def Evicted (calls : List Call) (position : Nat) (stamp : Instant) : Prop :=
  ∃ later call, position < later ∧ calls[later]? = some call ∧ call.Evicts stamp

/-- The number of calls that indexed a text. -/
def indexings (calls : List Call) : Nat :=
  calls.countP fun call => call.event.place?.isSome

theorem getElem?_concat_eq_some_iff {other : Call} :
    (calls ++ [call])[position]? = some other ↔
      calls[position]? = some other ∨ position = calls.length ∧ call = other := by
  rw [List.getElem?_append]
  split
  · rename_i inside
    simp [Nat.ne_of_lt inside]
  · rename_i outside
    rw [List.getElem?_singleton, List.getElem?_eq_none (Nat.le_of_not_lt outside)]
    split
    · rename_i atEnd
      simp [show position = calls.length by omega]
    · rename_i beyond
      simp [show position ≠ calls.length by omega]

theorem lt_length_of_getElem? (found : calls[position]? = some call) : position < calls.length :=
  (List.getElem?_eq_some_iff.mp found).1

theorem LastIndexed.lt_length (last : LastIndexed calls place position stamp) :
    position < calls.length := by
  obtain ⟨call, found, _⟩ := last.indexed
  exact lt_length_of_getElem? found

theorem LastIndexed.position_unique {other : Nat} {otherStamp : Instant}
    (last : LastIndexed calls place position stamp)
    (otherLast : LastIndexed calls place other otherStamp) : position = other := by
  obtain ⟨call, found, indexes, _⟩ := last.indexed
  obtain ⟨otherCall, otherFound, otherIndexes, _⟩ := otherLast.indexed
  rcases Nat.lt_trichotomy position other with earlier | same | later
  · exact absurd otherIndexes (last.last other otherCall earlier otherFound)
  · exact same
  · exact absurd indexes (otherLast.last position call later found)

theorem lastIndexed_concat_of_eq (indexes : call.event.place? = some place) :
    LastIndexed (calls ++ [call]) place position stamp ↔
      position = calls.length ∧ stamp = call.before.clock := by
  constructor
  · intro last
    obtain ⟨other, found, _, rfl⟩ := last.indexed
    rcases getElem?_concat_eq_some_iff.mp found with before | ⟨atEnd, rfl⟩
    · have earlier := lt_length_of_getElem? before
      exact absurd indexes (last.last calls.length call earlier List.getElem?_concat_length)
    · exact ⟨atEnd, rfl⟩
  · intro given
    obtain ⟨rfl, rfl⟩ := given
    refine ⟨⟨call, List.getElem?_concat_length, indexes, rfl⟩, fun later other after found => ?_⟩
    have inside := lt_length_of_getElem? found
    simp only [List.length_append, List.length_singleton] at inside
    omega

theorem lastIndexed_concat_of_ne (indexes : call.event.place? ≠ some place) :
    LastIndexed (calls ++ [call]) place position stamp ↔
      LastIndexed calls place position stamp := by
  constructor
  · intro last
    obtain ⟨other, found, otherIndexes, clock⟩ := last.indexed
    rcases getElem?_concat_eq_some_iff.mp found with before | ⟨_, rfl⟩
    · exact ⟨⟨other, before, otherIndexes, clock⟩, fun later another after listed =>
        last.last later another after (getElem?_concat_eq_some_iff.mpr (.inl listed))⟩
    · exact absurd otherIndexes indexes
  · intro last
    obtain ⟨other, found, rest⟩ := last.indexed
    refine ⟨⟨other, getElem?_concat_eq_some_iff.mpr (.inl found), rest⟩, ?_⟩
    intro later another after listed
    rcases getElem?_concat_eq_some_iff.mp listed with before | ⟨_, rfl⟩
    · exact last.last later another after before
    · exact indexes

theorem evicted_concat_iff (earlier : position < calls.length) :
    Evicted (calls ++ [call]) position stamp ↔
      Evicted calls position stamp ∨ call.Evicts stamp := by
  constructor
  · intro given
    obtain ⟨later, other, after, found, evicts⟩ := given
    rcases getElem?_concat_eq_some_iff.mp found with before | ⟨_, rfl⟩
    · exact .inl ⟨later, other, after, before, evicts⟩
    · exact .inr evicts
  · intro either
    rcases either with ⟨later, other, after, found, evicts⟩ | evicts
    · exact ⟨later, other, after, getElem?_concat_eq_some_iff.mpr (.inl found), evicts⟩
    · exact ⟨calls.length, call, earlier, List.getElem?_concat_length, evicts⟩

theorem not_evicted_concat_length : ¬Evicted (calls ++ [call]) calls.length stamp := by
  intro given
  obtain ⟨later, other, after, found, _⟩ := given
  have inside := lt_length_of_getElem? found
  simp only [List.length_append, List.length_singleton] at inside
  omega

theorem indexings_concat (calls : List Call) (call : Call) :
    indexings (calls ++ [call]) =
      indexings calls + if call.event.place?.isSome then 1 else 0 := by
  simp [indexings, List.countP_append, List.countP_singleton]

/-- Calls that index are numbered in their order. -/
theorem indexings_take_lt {other : Nat} (found : calls[position]? = some call)
    (indexes : call.event.place?.isSome) (later : position < other) :
    indexings (calls.take position) < indexings (calls.take other) := by
  have next : indexings (calls.take (position + 1)) = indexings (calls.take position) + 1 := by
    rw [List.take_add_one, found, Option.toList_some, indexings_concat, if_pos indexes]
  have rest : indexings (calls.take (position + 1)) ≤ indexings (calls.take other) :=
    ((List.take_prefix_take_left later).sublist).countP_le
  omega

/-- The store holds what the calls have left in it. -/
structure Recorded (calls : List Call) (store : Store) : Prop where
  indexed : store.indexed = indexings calls
  held : ∀ name text entry, store.held? name text = some entry ↔
    ∃ position, LastIndexed calls (name, text) position entry.stamp ∧
      ¬Evicted calls position entry.stamp ∧ entry.order = indexings (calls.take position)

theorem recorded_nil (settings : Settings) : Recorded [] { settings } where
  indexed := rfl
  held name text entry := by
    constructor
    · intro found
      contradiction
    · intro given
      obtain ⟨position, last, _⟩ := given
      exact absurd last.lt_length (Nat.not_lt_zero position)

theorem Recorded.written {name text : String} (recorded : Recorded calls call.before.store)
    (indexes : call.event.place? = some (name, text)) :
    Recorded (calls ++ [call]) (call.before.store.written call.before.clock text name) where
  indexed := by
    simp [Store.written, recorded.indexed, indexings_concat, indexes]
  held otherName otherText entry := by
    rw [Store.held?_written]
    split
    · rename_i same
      simp only [same, lastIndexed_concat_of_eq indexes, Option.some.injEq]
      constructor
      · intro same
        cases same
        refine ⟨calls.length, ⟨rfl, rfl⟩, not_evicted_concat_length, ?_⟩
        simp [recorded.indexed]
      · intro given
        obtain ⟨_, ⟨rfl, stamp⟩, _, order⟩ := given
        rw [List.take_left', ← recorded.indexed] at order
        · rw [← stamp, ← order]
        · rfl
    · rename_i different
      have elsewhere : call.event.place? ≠ some (otherName, otherText) := fun found =>
        different (Option.some.inj (found.symm.trans indexes))
      have quiet : ¬call.Evicts entry.stamp := by
        intro given
        obtain ⟨cleanup, _⟩ := given
        rw [cleanup] at indexes
        contradiction
      rw [recorded.held]
      refine exists_congr fun position => ?_
      rw [lastIndexed_concat_of_ne elsewhere]
      refine and_congr_right fun last => ?_
      rw [evicted_concat_iff last.lt_length, List.take_append_of_le_length last.lt_length.le,
        or_iff_left quiet]

theorem Recorded.kept (recorded : Recorded calls call.before.store)
    (quiet : call.event.place? = none) (other : call.event ≠ .cleanup) :
    Recorded (calls ++ [call]) call.before.store where
  indexed := by
    simp [recorded.indexed, indexings_concat, quiet]
  held name text entry := by
    have keeps : ¬call.Evicts entry.stamp := fun evicts => other evicts.1
    rw [recorded.held]
    refine exists_congr fun position => ?_
    rw [lastIndexed_concat_of_ne (by simp [quiet])]
    refine and_congr_right fun last => ?_
    rw [evicted_concat_iff last.lt_length, List.take_append_of_le_length last.lt_length.le,
      or_iff_left keeps]

theorem Recorded.swept (recorded : Recorded calls call.before.store)
    (cleanup : call.event = .cleanup) :
    Recorded (calls ++ [call]) (call.before.store.cleanup call.before.clock).2 where
  indexed := by
    simp [Store.cleanup, Store.swept, recorded.indexed, indexings_concat, cleanup, Event.place?]
  held name text entry := by
    have evicts : call.Evicts entry.stamp ↔
        call.before.store.Expired call.before.clock entry.stamp :=
      and_iff_right cleanup
    have found : (call.before.store.cleanup call.before.clock).2.held? name text =
        (call.before.store.swept call.before.clock).held? name text := rfl
    rw [found, Store.held?_swept, Option.filter_eq_some_iff, recorded.held, Store.isLive_iff,
      ← evicts, ← exists_and_right]
    refine exists_congr fun position => ?_
    rw [lastIndexed_concat_of_ne (by simp [cleanup, Event.place?]), and_assoc]
    refine and_congr_right fun last => ?_
    rw [evicted_concat_iff last.lt_length, List.take_append_of_le_length last.lt_length.le, not_or]
    tauto

theorem Recorded.step (recorded : Recorded calls call.before.store) :
    Recorded (calls ++ [call]) (call.before.step call.event).2.store := by
  rcases step_cases call.before call.event with
    ⟨name, text, indexes, after⟩ | ⟨cleanup, after⟩ | ⟨quiet, other, after⟩
  · rw [after]
    exact recorded.written indexes
  · rw [after]
    exact recorded.swept cleanup
  · rw [after]
    exact recorded.kept quiet other

theorem recorded_run (settings : Settings) (clock : Instant) (events : List Event) :
    Recorded ((start settings clock).calls events) ((start settings clock).run events).store := by
  induction events using List.reverseRecOn with
  | nil => exact recorded_nil settings
  | append_singleton events event induction =>
      rw [run_concat, calls_concat]
      exact induction.step

/-- Between the positions of two calls that index, the numbers of the calls tell the order. -/
theorem indexings_take_lt_iff {other : Nat} {otherCall : Call}
    (found : calls[position]? = some call) (indexes : call.event.place?.isSome)
    (otherFound : calls[other]? = some otherCall) (otherIndexes : otherCall.event.place?.isSome) :
    indexings (calls.take position) < indexings (calls.take other) ↔ position < other := by
  constructor
  · intro less
    rcases Nat.lt_trichotomy position other with earlier | rfl | later
    · exact earlier
    · exact absurd less (Nat.lt_irrefl _)
    · exact absurd less (indexings_take_lt otherFound otherIndexes later).asymm
  · exact indexings_take_lt found indexes

variable {store : Store} {name text otherName otherText : String} {entry other : Entry}

theorem Recorded.stamp_eq_some_iff (recorded : Recorded calls store) (name text : String)
    (stamp : Instant) :
    (store.held? name text).map Entry.stamp = some stamp ↔
      ∃ position, LastIndexed calls (name, text) position stamp ∧
        ¬Evicted calls position stamp := by
  rw [Option.map_eq_some_iff]
  constructor
  · intro given
    obtain ⟨entry, found, rfl⟩ := given
    obtain ⟨position, last, kept, _⟩ := (recorded.held name text entry).mp found
    exact ⟨position, last, kept⟩
  · intro given
    obtain ⟨position, last, kept⟩ := given
    exact ⟨⟨stamp, indexings (calls.take position)⟩,
      (recorded.held name text _).mpr ⟨position, last, kept, rfl⟩, rfl⟩

/-- The order of an entry is the number of calls that have indexed before its last one. -/
theorem Recorded.order_eq (recorded : Recorded calls store)
    (found : store.held? name text = some entry)
    (last : LastIndexed calls (name, text) position entry.stamp) :
    entry.order = indexings (calls.take position) := by
  obtain ⟨other, otherLast, _, order⟩ := (recorded.held name text entry).mp found
  rw [order, otherLast.position_unique last]

theorem LastIndexed.isSome (last : LastIndexed calls place position stamp) :
    ∃ call, calls[position]? = some call ∧ call.event.place?.isSome := by
  obtain ⟨call, found, indexes, _⟩ := last.indexed
  exact ⟨call, found, by rw [indexes]; rfl⟩

theorem Recorded.order_lt_iff {otherPosition : Nat} (recorded : Recorded calls store)
    (found : store.held? name text = some entry)
    (otherFound : store.held? otherName otherText = some other)
    (last : LastIndexed calls (name, text) position entry.stamp)
    (otherLast : LastIndexed calls (otherName, otherText) otherPosition other.stamp) :
    entry.order < other.order ↔ position < otherPosition := by
  obtain ⟨call, made, indexes⟩ := last.isSome
  obtain ⟨otherCall, otherMade, otherIndexes⟩ := otherLast.isSome
  rw [recorded.order_eq found last, recorded.order_eq otherFound otherLast]
  exact indexings_take_lt_iff made indexes otherMade otherIndexes

theorem Recorded.ordered (recorded : Recorded calls store) : store.Ordered where
  below found := by
    obtain ⟨position, last, _, order⟩ := (recorded.held _ _ _).mp found
    obtain ⟨call, made, indexes⟩ := last.isSome
    have less := indexings_take_lt made indexes last.lt_length
    rwa [List.take_length, ← order, ← recorded.indexed] at less
  distinct found otherFound sameOrder := by
    obtain ⟨position, last, _⟩ := (recorded.held _ _ _).mp found
    obtain ⟨otherPosition, otherLast, _⟩ := (recorded.held _ _ _).mp otherFound
    have samePosition : position = otherPosition := by
      have forward := recorded.order_lt_iff found otherFound last otherLast
      have backward := recorded.order_lt_iff otherFound found otherLast last
      omega
    subst samePosition
    obtain ⟨call, made, indexes, _⟩ := last.indexed
    obtain ⟨otherCall, otherMade, otherIndexes, _⟩ := otherLast.indexed
    rw [made, Option.some.injEq] at otherMade
    rw [otherMade, otherIndexes, Option.some.injEq] at indexes
    exact indexes.symm

end Retrieval.Suggestion.Session
