import Retrieval.Proofs.Suggestion.Accounting
import Retrieval.Proofs.Suggestion.Lookup

/-!
What a cleanup removes. An entry has expired exactly if more time than it lives has passed since its
stamp, and these entries are removed, hidden from lookups and counted.
-/

namespace Retrieval.Suggestion

namespace Store

variable {store : Store} {now stamp : Instant} {name text : String} {entry : Entry}

theorem cleanup_fst : (store.cleanup now).1 =
    store.entries.countP fun place => !store.isLive now place.2.2 := by
  have total := List.length_eq_countP_add_countP (fun place => store.isLive now place.2.2)
    (l := store.entries)
  have kept : (store.swept now).entryCount =
      store.entries.countP fun place => store.isLive now place.2.2 := by
    rw [entryCount, entries_swept, List.countP_eq_length_filter]
  rw [cleanup, entryCount, kept, total]
  simp

theorem held?_cleanup : (store.cleanup now).2.held? name text = store.live? now name text :=
  held?_swept

/-- Where nothing has expired, there is nothing to sweep. -/
theorem swept_eq_self (taken : store.GroupsTaken)
    (live : ∀ name text entry, store.held? name text = some entry →
      store.isLive now entry = true) : store.swept now = store := by
  have whole : ∀ place ∈ store.groups.entries, place.2.filter (store.isLive now) = place.2 := by
    rintro ⟨name, group⟩ listed
    refine Directory.filter_eq_self ?_
    rintro ⟨text, entry⟩ inside
    refine live name text entry ?_
    rw [held?, Store.group, Directory.find?_eq_some_iff.mpr listed]
    exact Directory.find?_eq_some_iff.mpr inside
  have nonempty : ∀ place ∈ store.groups.entries, (!place.2.isEmpty) = true := by
    rintro ⟨name, group⟩ listed
    simp [taken name group (Directory.find?_eq_some_iff.mpr listed)]
  rw [swept, Directory.map_eq_self whole, Directory.filter_eq_self nonempty]

theorem cleanup_eq_self (taken : store.GroupsTaken) (gauge : store.gauge = store.entryCount)
    (live : ∀ name text entry, store.held? name text = some entry →
      store.isLive now entry = true) : store.cleanup now = (0, store) := by
  rw [cleanup, swept_eq_self taken live, Nat.sub_self, ← gauge]

variable {wanted : String} {groups : List String} {size : Option Nat}

theorem suggestIn_cleanup (lasting : 0 < store.settings.ttl) (ordered : store.Ordered) :
    (store.cleanup now).2.suggestIn now wanted groups size =
      store.suggestIn now wanted groups size := by
  have alike : Alike (fun _ => True) id now store (store.cleanup now).2 :=
    { settings := rfl
      live := fun _ _ _ =>
        (live?_swept_of_later lasting (Int.le_refl _)).trans Option.map_id'.symm
      increasing := fun _ _ _ _ less => less }
  exact suggestIn_congr ordered alike fun _ _ => trivial

theorem mem_names_iff_held (taken : store.GroupsTaken) :
    name ∈ store.groups.names ↔ ∃ text entry, store.held? name text = some entry := by
  rw [mem_names_iff taken, List.mem_map]
  constructor
  · rintro ⟨⟨_, text, entry⟩, listed, rfl⟩
    exact ⟨text, entry, mem_entries_iff.mp listed⟩
  · rintro ⟨text, entry, found⟩
    exact ⟨_, mem_entries_iff.mpr found, rfl⟩

/-- What a cleanup does. It removes the overdue entries and counts them, leaves the others as they
are, and drops the groups that have none left. A lookup at that instant shows exactly the entries
that are left, as far as it has room, and no cleanup up to that instant has anything left to do. -/
structure Cleaned (store : Store) (now : Instant) (removed : Nat) (after : Store) : Prop where
  held : ∀ name text entry, after.held? name text = some entry ↔
    store.held? name text = some entry ∧ ¬ store.settings.Overdue now entry.stamp
  counted : removed = store.entries.countP fun place => store.settings.Overdue now place.2.2.stamp
  groups : ∀ name, name ∈ after.groups.names ↔
    name ∈ store.groups.names ∧ ∃ text entry, after.held? name text = some entry
  /-- Outside added seconds it is only the distance of the instants that counts. -/
  distance : ∀ stamp, stamp.isAdded = false → now.isAdded = false →
    (store.settings.Overdue now stamp ↔
      store.settings.ttl * nanosPerSecond < Instant.nanosBetween stamp now)
  untouched :
    now.ticks - store.settings.ttl * nanosPerSecond < Instant.firstSecond * nanosPerSecond →
      removed = 0 ∧ after = store
  hidden : ∀ wanted groups size,
    store.suggestIn now wanted groups size = after.suggestIn now wanted groups size ∧
      ∀ hit ∈ store.suggestIn now wanted groups size,
        ∃ group ∈ groups, (after.held? (Text.trim group) hit.text).isSome
  shown : ∀ wanted groups size, Text.trim wanted ≠ "" → ∀ group ∈ groups, ∀ text,
    (after.held? (Text.trim group) text).isSome → ((store.matcher wanted).edits? text).isSome →
    text ∈ (store.suggestIn now wanted groups size).map Hit.text ∨
      (store.suggestIn now wanted groups size).length = store.settings.effectiveSize size
  again : ∀ earlier, earlier.ticks ≤ now.ticks ∨ earlier.isAdded = false ∧ ¬ now < earlier →
    after.cleanup earlier = (0, after)

theorem cleaned (lasting : 0 < store.settings.ttl) (ordered : store.Ordered)
    (taken : store.GroupsTaken) (gauge : store.gauge = store.entryCount) :
    Cleaned store now (store.cleanup now).1 (store.cleanup now).2 where
  held name text entry := by
    rw [held?_cleanup, live?_eq_some_iff, isLive_iff_not_overdue lasting]
  counted := by
    rw [cleanup_fst]
    refine List.countP_congr fun place _ => ?_
    rw [Bool.not_eq_true', ← Bool.not_eq_true, isLive_iff_not_overdue lasting, not_not,
      decide_eq_true_eq]
  groups name := by
    have stillTaken : (store.cleanup now).2.GroupsTaken := groupsTaken_swept
    rw [mem_names_iff_held stillTaken, mem_names_iff_held taken]
    refine (and_iff_right_of_imp ?_).symm
    rintro ⟨text, entry, found⟩
    rw [held?_cleanup, live?_eq_some_iff] at found
    exact ⟨text, entry, found.1⟩
  distance stamp regular present := by
    rw [Settings.Overdue, Instant.nanosBetween_eq regular present, Instant.floor_eq_ticks regular]
  untouched early := by
    have live : ∀ name text entry, store.held? name text = some entry →
        store.isLive now entry = true := by
      intro name text entry _
      rw [isLive_iff_not_overdue lasting, Settings.Overdue]
      have notEarlier := entry.stamp.first_le_floor
      omega
    rw [cleanup_eq_self taken gauge live]
    exact ⟨rfl, rfl⟩
  hidden wanted groups size := by
    refine ⟨(suggestIn_cleanup lasting ordered).symm, fun hit given => ?_⟩
    simp only [held?_cleanup]
    exact (found_of_mem_suggestIn given).1
  shown wanted groups size solid group listed text live matched := by
    rw [held?_cleanup] at live
    exact given_or_full (Bool.eq_false_iff.mpr (mt Text.isBlank_iff_trim_eq.mp solid)) listed live
      matched
  again earlier before := by
    have before : earlier.ticks ≤ now.ticks :=
      before.elim id fun given => Instant.ticks_le_of_not_lt given.1 given.2
    refine cleanup_eq_self groupsTaken_swept rfl fun name text entry found => ?_
    rw [held?_cleanup, live?_eq_some_iff] at found
    exact isLive_of_later lasting before found.2

end Store

namespace Session

variable {settings : Settings}

/-- Whatever has led to a store, a cleanup removes the overdue entries and no others. -/
theorem cleanup_removes_overdue (usable : settings.check = .ok ()) (clock now : Instant)
    (events : List Event) :
    let store := ((start settings clock).run events).store
    Store.Cleaned store now (store.cleanup now).1 (store.cleanup now).2 := by
  intro store
  have lasting : 0 < store.settings.ttl := by
    rw [settings_run]
    exact ttl_pos_of_check usable
  obtain ⟨taken, gauge, _⟩ := balanced_run settings clock events
  exact Store.cleaned lasting (recorded_run settings clock events).ordered taken gauge

/-- After a minute the first text is overdue, but not the one at the minute's end, nor the one that
was indexed before the clock was set back. -/
theorem cleanup_after_minute :
    let settings : Settings := { ttl := 60 }
    let now : Instant := { second := 60, nanos := 1 }
    let events : List Event :=
      [.index "tea" "drinks", .moveClock { second := 0, nanos := 1 }, .index "teddy" "toys",
        .moveClock { second := 90 }, .index "tent" "toys", .moveClock now]
    let store := ((start settings { second := 0 }).run events).store
    settings.check = .ok () ∧ (store.cleanup now).1 = 1 ∧
      (store.cleanup now).2.groups.names = ["toys"] ∧
      Store.Cleaned store now (store.cleanup now).1 (store.cleanup now).2 := by
  intro settings now events store
  have usable : settings.check = .ok () := rfl
  exact ⟨usable, by decide +kernel, by decide +kernel,
    cleanup_removes_overdue usable { second := 0 } now events⟩

/-- An entry that was stamped within an added second is removed before it is a second old. One that
was stamped before is left by a cleanup at the end of the added second, and removed by a second one
that is made within it, although that is earlier. -/
theorem overdue_past_added_second :
    let settings : Settings := { ttl := 1 }
    let before : Instant := { second := 86399, nanos := 200000000 }
    let added : Instant := { second := 86399, nanos := 1500000000 }
    let next : Instant := { second := 86400 }
    let later : Instant := { second := 86401, nanos := 200000000 }
    let tea (clock : Instant) : Store :=
      ((start settings clock).run [.index "tea" "drinks"]).store
    settings.check = .ok () ∧
      Instant.nanosBetween added later = 700000000 ∧
      ¬ settings.ttl * nanosPerSecond < Instant.nanosBetween added later ∧
      ((tea added).cleanup later).1 = 1 ∧
      added < next ∧ ((tea before).cleanup next).1 = 0 ∧
      (((tea before).cleanup next).2.cleanup added).1 = 1 := by
  decide +kernel

end Session

end Retrieval.Suggestion
