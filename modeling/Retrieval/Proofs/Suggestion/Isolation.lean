import Mathlib.Logic.Function.Basic
import Retrieval.Proofs.Suggestion.Cleanup

namespace Retrieval.Suggestion

/-- The event indexes in a group other than those within. -/
def Event.outside (within : String → Prop) [DecidablePred within] : Event → Bool
  | .index _ group => ¬within (Text.trim group)
  | _ => false

/-- The event is a lookup in none but the groups within. -/
def Event.looksWithin (within : String → Prop) [DecidablePred within] : Event → Bool
  | .lookup _ groups _ => ∀ group ∈ groups, within (Text.trim group)
  | _ => false

namespace Session

variable {within : String → Prop} {rename : Nat → Nat} {left right : Session} {event : Event}

/-- Within some groups both sessions hold the same entries but for their orders, which compare in
the same way. -/
structure Renamed (within : String → Prop) (rename : Nat → Nat) (left right : Session) : Prop where
  clock : right.clock = left.clock
  settings : right.store.settings = left.store.settings
  held : ∀ name, within name → ∀ text,
    right.store.held? name text = (left.store.held? name text).map (Entry.renamed rename)
  increasing : ∀ {name text entry otherName otherText other}, within name → within otherName →
    left.store.held? name text = some entry → left.store.held? otherName otherText = some other →
    entry.order < other.order → rename entry.order < rename other.order

theorem Renamed.alike (renamed : Renamed within rename left right) :
    Store.Alike within rename left.clock left.store right.store where
  settings := renamed.settings
  live name inside text := by
    unfold Store.live?
    rw [renamed.held name inside, Store.isLive_congr renamed.settings, Option.filter_map]
    rfl
  increasing inside otherInside live otherLive :=
    renamed.increasing inside otherInside (Store.live?_eq_some_iff.mp live).1
      (Store.live?_eq_some_iff.mp otherLive).1

theorem Renamed.answer (renamed : Renamed within rename left right)
    (ordered : left.store.Ordered) {wanted : String} {groups : List String} {size : Option Nat}
    (inside : ∀ group ∈ groups, within (Text.trim group)) :
    (right.step (.lookup wanted groups size)).1 = (left.step (.lookup wanted groups size)).1 := by
  have found : right.store.suggestIn left.clock wanted groups size =
      left.store.suggestIn left.clock wanted groups size :=
    Store.suggestIn_congr ordered renamed.alike inside
  simp only [step, renamed.clock, found]

theorem Renamed.swept (renamed : Renamed within rename left right) :
    Renamed within rename (left.step .cleanup).2 (right.step .cleanup).2 where
  clock := renamed.clock
  settings := renamed.settings
  held name inside text := by
    change (right.store.swept right.clock).held? name text =
      ((left.store.swept left.clock).held? name text).map (Entry.renamed rename)
    rw [Store.held?_swept, Store.held?_swept, renamed.held name inside, renamed.clock,
      Store.isLive_congr renamed.settings, Option.filter_map]
    rfl
  increasing inside otherInside found otherFound := by
    change (left.store.swept left.clock).held? _ _ = _ at found otherFound
    rw [Store.held?_swept, Option.filter_eq_some_iff] at found otherFound
    exact renamed.increasing inside otherInside found.1 otherFound.1

theorem Renamed.writtenOutside {name text : String} (renamed : Renamed within rename left right)
    (place : event.place? = some (name, text)) (outside : ¬within name) :
    Renamed within rename (left.step event).2 right := by
  have elsewhere {other : String} (inside : within other) (otherText : String) :
      (left.store.written left.clock text name).held? other otherText =
        left.store.held? other otherText := by
    rw [Store.held?_written, if_neg]
    intro same
    exact outside ((Prod.mk.inj same).1 ▸ inside)
  rw [step_of_place place]
  refine ⟨renamed.clock, renamed.settings, fun other inside otherText => ?_, ?_⟩
  · rw [elsewhere inside, renamed.held other inside]
  · intro _ _ _ _ _ _ inside otherInside found otherFound
    rw [elsewhere inside] at found
    rw [elsewhere otherInside] at otherFound
    exact renamed.increasing inside otherInside found otherFound

/-- The new entries correspond, and they come after all others on either side. -/
theorem Renamed.written {name text : String} (renamed : Renamed within rename left right)
    (leftOrdered : left.store.Ordered) (rightOrdered : right.store.Ordered)
    (place : event.place? = some (name, text)) :
    Renamed within (Function.update rename left.store.indexed right.store.indexed)
      (left.step event).2 (right.step event).2 := by
  have kept {other otherText : String} {entry : Entry}
      (found : left.store.held? other otherText = some entry) :
      Function.update rename left.store.indexed right.store.indexed entry.order =
        rename entry.order :=
    Function.update_of_ne (Nat.ne_of_lt (leftOrdered.below found)) _ _
  have below {other otherText : String} {entry : Entry} (inside : within other)
      (found : left.store.held? other otherText = some entry) :
      rename entry.order < right.store.indexed := by
    have corresponding := renamed.held other inside otherText
    rw [found] at corresponding
    exact rightOrdered.below corresponding
  rw [step_of_place place, step_of_place place]
  refine ⟨renamed.clock, renamed.settings, fun other inside otherText => ?_, ?_⟩
  · rw [Store.held?_written, Store.held?_written]
    split
    · simp [Entry.renamed, renamed.clock]
    · rw [renamed.held other inside]
      cases found : left.store.held? other otherText with
      | none => rfl
      | some entry => simp only [Option.map_some, Entry.renamed, kept found]
  · intro firstName firstText entry otherName otherText other inside otherInside found otherFound
      less
    rw [Store.held?_written] at found otherFound
    split at found
    · cases found
      split at otherFound
      · cases otherFound
        exact absurd less (Nat.lt_irrefl _)
      · exact absurd less (leftOrdered.below otherFound).asymm
    · rw [kept found]
      split at otherFound
      · cases otherFound
        rw [Function.update_self]
        exact below inside found
      · rw [kept otherFound]
        exact renamed.increasing inside otherInside found otherFound less

theorem Renamed.moveClock (renamed : Renamed within rename left right) (reading : Instant) :
    Renamed within rename (left.step (.moveClock reading)).2
      (right.step (.moveClock reading)).2 where
  clock := rfl
  settings := renamed.settings
  held := renamed.held
  increasing := renamed.increasing

theorem Renamed.step (renamed : Renamed within rename left right)
    (leftOrdered : left.store.Ordered) (rightOrdered : right.store.Ordered) (event : Event) :
    ∃ next, Renamed within next (left.step event).2 (right.step event).2 := by
  cases event with
  | index text group =>
      by_cases blank : Text.trim text = "" ∨ Text.trim group = ""
      · rw [step_of_blank blank, step_of_blank blank]
        exact ⟨rename, renamed⟩
      · exact ⟨_, renamed.written leftOrdered rightOrdered (if_neg blank)⟩
  | lookup => exact ⟨rename, renamed⟩
  | cleanup => exact ⟨rename, renamed.swept⟩
  | moveClock reading => exact ⟨rename, renamed.moveClock reading⟩

variable [DecidablePred within]

theorem Renamed.skip (renamed : Renamed within rename left right)
    (outside : event.outside within = true) : Renamed within rename (left.step event).2 right := by
  cases event with
  | index text group =>
      by_cases blank : Text.trim text = "" ∨ Text.trim group = ""
      · rw [step_of_blank blank]
        exact renamed
      · exact renamed.writtenOutside (if_neg blank) (of_decide_eq_true outside)
  | lookup => contradiction
  | cleanup => contradiction
  | moveClock => contradiction

/-- A run without what it indexes outside. -/
def withoutOutside (within : String → Prop) [DecidablePred within] (events : List Event) :
    List Event :=
  events.filter fun event => !event.outside within

variable {settings : Settings} {clock : Instant}

theorem withoutOutside_run (within : String → Prop) [DecidablePred within] (settings : Settings)
    (clock : Instant) (events : List Event) :
    (∃ rename, Renamed within rename ((start settings clock).run events)
        ((start settings clock).run (withoutOutside within events))) ∧
      observed (Event.looksWithin within)
          ((start settings clock).calls (withoutOutside within events)) =
        observed (Event.looksWithin within) ((start settings clock).calls events) := by
  induction events using List.reverseRecOn with
  | nil =>
      refine ⟨⟨id, rfl, rfl, fun _ _ _ => rfl, ?_⟩, rfl⟩
      intro _ _ _ _ _ _ _ _ found
      contradiction
  | append_singleton events event induction =>
      obtain ⟨⟨rename, renamed⟩, answers⟩ := induction
      have leftOrdered := (recorded_run settings clock events).ordered
      have rightOrdered := (recorded_run settings clock (withoutOutside within events)).ordered
      cases outside : event.outside within with
      | true =>
          have dropped : withoutOutside within (events ++ [event]) =
              withoutOutside within events := by
            simp [withoutOutside, outside]
          have unseen : event.looksWithin within = false := by
            cases event with
            | index => rfl
            | lookup => contradiction
            | cleanup => rfl
            | moveClock => rfl
          rw [dropped, run_concat, calls_concat, observed_concat, answers]
          exact ⟨⟨rename, renamed.skip outside⟩, by simp [unseen]⟩
      | false =>
          have kept : withoutOutside within (events ++ [event]) =
              withoutOutside within events ++ [event] := by
            simp [withoutOutside, outside]
          rw [kept, run_concat, run_concat, calls_concat, calls_concat, observed_concat,
            observed_concat, answers]
          refine ⟨renamed.step leftOrdered rightOrdered event, ?_⟩
          cases seen : event.looksWithin within with
          | false => simp
          | true =>
              cases event with
              | lookup wanted groups size =>
                  have inside : ∀ group ∈ groups, within (Text.trim group) :=
                    of_decide_eq_true seen
                  simp only [Call.answer, renamed.answer leftOrdered inside]
              | index => contradiction
              | cleanup => contradiction
              | moveClock => contradiction

/-- Two runs that differ only in what they index outside some groups find the same texts in them. -/
theorem observed_eq_of_withoutOutside_eq (settings : Settings) (clock : Instant)
    {first second : List Event}
    (same : withoutOutside within first = withoutOutside within second) :
    observed (Event.looksWithin within) ((start settings clock).calls first) =
      observed (Event.looksWithin within) ((start settings clock).calls second) := by
  rw [← (withoutOutside_run within settings clock first).2, same,
    (withoutOutside_run within settings clock second).2]

/-- What is indexed among the toys does not show among the drinks. -/
theorem observed_drinks_without_toys :
    let all : List Event :=
      [.index "teddy" "toys", .index "tea" "drinks", .index "tent" "toys",
        .index "tequila" "drinks", .cleanup, .lookup "te" [" drinks"] none]
    let fewer : List Event :=
      [.index "tea" "drinks", .index "tent" "toys", .index "tequila" "drinks", .cleanup,
        .lookup "te" [" drinks"] none]
    withoutOutside (· = "drinks") all = withoutOutside (· = "drinks") fewer ∧
      observed (Event.looksWithin (· = "drinks")) ((start {} { second := 0 }).calls all) =
        observed (Event.looksWithin (· = "drinks")) ((start {} { second := 0 }).calls fewer) := by
  intro all fewer
  have same : withoutOutside (· = "drinks") all = withoutOutside (· = "drinks") fewer := by decide
  exact ⟨same, observed_eq_of_withoutOutside_eq {} { second := 0 } same⟩

end Session

end Retrieval.Suggestion
