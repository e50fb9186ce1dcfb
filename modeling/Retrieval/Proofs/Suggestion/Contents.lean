import Mathlib.Data.List.Dedup
import Mathlib.Data.List.Perm.Basic
import Retrieval.Proofs.Directory
import Retrieval.Proofs.Instant
import Retrieval.Proofs.Text.Blank
import Retrieval.Suggestion.Store

namespace Retrieval.Suggestion

/-- More time than an entry lives lies between its stamp and now. An added second counts for now
like the one after it, and for the stamp like the end of the one before it. -/
def Settings.Overdue (settings : Settings) (now stamp : Instant) : Prop :=
  settings.ttl * nanosPerSecond < now.ticks - stamp.floor

instance (settings : Settings) (now stamp : Instant) : Decidable (settings.Overdue now stamp) :=
  inferInstanceAs (Decidable (_ < _))

namespace Store

variable {store after : Store} {now reading stamp : Instant} {name text : String} {entry : Entry}

/-- The store after a text has been indexed in a group, both as they are stored. -/
def written (store : Store) (now : Instant) (text name : String) : Store :=
  { store with
    groups := store.groups.insert name ((store.group name).insert text ⟨now, store.indexed⟩)
    indexed := store.indexed + 1
    gauge := if (store.held? name text).isNone then store.gauge + 1 else store.gauge }

theorem index_eq_error (blank : Text.trim text = "" ∨ Text.trim name = "") :
    store.index now text name =
      .error (if Text.trim text = "" then .blankText else .blankGroup) := by
  simp only [← Text.isBlank_iff_trim_eq] at blank ⊢
  unfold index
  by_cases noText : Text.isBlank text = true
  · rw [if_pos noText, if_pos noText]
    rfl
  · rw [if_neg noText, if_neg noText, if_pos (blank.resolve_left noText)]
    rfl

theorem index_eq_ok (given : ¬(Text.trim text = "" ∨ Text.trim name = "")) :
    store.index now text name = .ok (store.written now (Text.trim text) (Text.trim name)) := by
  simp only [← Text.isBlank_iff_trim_eq, not_or] at given
  unfold index
  rw [if_neg given.1, if_neg given.2]
  rfl

theorem held?_written (otherName otherText : String) :
    (store.written now text name).held? otherName otherText =
      if (otherName, otherText) = (name, text) then some ⟨now, store.indexed⟩
      else store.held? otherName otherText := by
  simp only [written, held?, group, Directory.find?_insert, Prod.mk.injEq]
  by_cases sameName : name = otherName
  · subst sameName
    simp only [if_true, Option.getD_some, Directory.find?_insert, true_and, eq_comm]
  · simp [sameName, Ne.symm sameName]

/-- The entries of a store are those that are found in it. -/
theorem mem_entries_iff :
    (name, text, entry) ∈ store.entries ↔ store.held? name text = some entry := by
  simp only [entries, List.mem_flatMap, List.mem_map, Prod.mk.injEq]
  constructor
  · intro given
    obtain ⟨⟨_, group⟩, listed, _, inside, rfl, rfl⟩ := given
    rw [held?, Store.group, Directory.find?_eq_some_iff.mpr listed]
    exact Directory.find?_eq_some_iff.mpr inside
  · intro found
    cases listed : store.groups.find? name with
    | none =>
        rw [held?, group, listed] at found
        contradiction
    | some group =>
        rw [held?, Store.group, listed] at found
        exact ⟨(name, group), Directory.find?_eq_some_iff.mp listed, (text, entry),
          Directory.find?_eq_some_iff.mp found, rfl, rfl⟩

/-- No place holds two entries. -/
theorem nodup_places : (store.entries.map fun place => (place.1, place.2.1)).Nodup := by
  simp only [entries, List.map_flatMap, List.map_map, Function.comp_def]
  refine List.nodup_flatMap.mpr ⟨fun group _ => ?_, ?_⟩
  · have distinct := group.2.distinct.map (f := Prod.mk group.1)
      fun _ _ same => congrArg Prod.snd same
    simpa only [List.map_map, Function.comp_def] using distinct
  · refine (List.pairwise_map.mp store.groups.distinct).imp fun different => ?_
    intro place inFirst inSecond
    obtain ⟨_, _, rfl⟩ := List.mem_map.mp inFirst
    obtain ⟨_, _, same⟩ := List.mem_map.mp inSecond
    exact different (congrArg Prod.fst same).symm

/-- A sweep keeps exactly the live entries. -/
theorem entries_swept :
    (store.swept now).entries = store.entries.filter fun place => store.isLive now place.2.2 := by
  simp only [entries, swept, Directory.filter, Directory.map]
  induction store.groups.entries with
  | nil => rfl
  | cons group rest induction =>
      simp only [List.map_cons, List.filter_cons, List.flatMap_cons, List.filter_append,
        ← induction, List.filter_map, Function.comp_def]
      by_cases emptied : (group.2.entries.filter fun place => store.isLive now place.2) = []
      · simp [Directory.isEmpty, emptied]
      · simp [Directory.isEmpty, emptied]

theorem held?_swept :
    (store.swept now).held? name text = (store.held? name text).filter (store.isLive now) := by
  refine Option.ext fun entry => ?_
  rw [← mem_entries_iff, entries_swept, List.mem_filter, mem_entries_iff,
    Option.filter_eq_some_iff]

theorem entryCount_swept_le : (store.swept now).entryCount ≤ store.entryCount := by
  rw [entryCount, entries_swept]
  exact List.length_filter_le _ _

theorem entryCount_eq_sum :
    store.entryCount = (store.groups.entries.map fun group => group.2.size).sum := by
  simp [entryCount, entries, List.length_flatMap, Directory.size]

theorem entryCount_written :
    (store.written now text name).entryCount =
      store.entryCount + if (store.held? name text).isNone then 1 else 0 := by
  have total := Directory.sum_putNamed Directory.size name
    ((store.group name).insert text ⟨now, store.indexed⟩) store.groups.entries
  have before : ((findNamed name store.groups.entries).map Directory.size).getD 0 =
      (store.group name).size := by
    unfold group Directory.find?
    cases findNamed name store.groups.entries <;> rfl
  rw [before, Directory.size_insert, ← entryCount_eq_sum] at total
  have after : (store.written now text name).entryCount =
      ((putNamed name ((store.group name).insert text ⟨now, store.indexed⟩)
        store.groups.entries).map fun group => group.2.size).sum := entryCount_eq_sum
  rw [after, held?]
  omega

/-- A stamp that is earlier than every live one. -/
def Expired (store : Store) (now stamp : Instant) : Prop :=
  ∃ cutoff, store.cutoff? now = some cutoff ∧ stamp < cutoff

theorem isLive_iff : store.isLive now entry = true ↔ ¬store.Expired now entry.stamp := by
  unfold isLive Expired
  cases store.cutoff? now with
  | none => simp
  | some cutoff => simp

theorem isLive_congr {left right : Store} (settings : right.settings = left.settings) :
    right.isLive now = left.isLive now := by
  funext entry
  simp only [isLive, cutoff?, settings]

/-- The limit is left out only where it would be earlier than every stamp. -/
theorem expired_iff_overdue (lasting : 0 < store.settings.ttl) :
    store.Expired now stamp ↔ store.settings.Overdue now stamp := by
  have long : (nanosPerSecond : Int) ≤ store.settings.ttl * nanosPerSecond := by
    simp only [nanosPerSecond]
    omega
  unfold Expired cutoff? Settings.Overdue
  rw [Instant.later?_neg long]
  constructor
  · intro expired
    obtain ⟨cutoff, given, earlier⟩ := expired
    obtain ⟨regular, same⟩ := Instant.ofTicks?_eq_some_iff.mp given
    rw [Instant.lt_iff_floor_lt regular, same] at earlier
    omega
  · intro overdue
    have early := stamp.first_le_floor
    have late := now.ticks_sub_lt
    obtain ⟨cutoff, given⟩ := Instant.exists_ofTicks?
      (show Instant.firstSecond * nanosPerSecond ≤
        now.ticks - store.settings.ttl * nanosPerSecond by omega) (by omega)
    obtain ⟨regular, same⟩ := Instant.ofTicks?_eq_some_iff.mp given
    refine ⟨cutoff, given, ?_⟩
    rw [Instant.lt_iff_floor_lt regular, same]
    omega

theorem isLive_iff_not_overdue (lasting : 0 < store.settings.ttl) :
    store.isLive now entry = true ↔ ¬store.settings.Overdue now entry.stamp := by
  rw [isLive_iff, expired_iff_overdue lasting]

/-- What is live later on is live before. -/
theorem isLive_of_later (lasting : 0 < store.settings.ttl) (later : now.ticks ≤ reading.ticks)
    (live : store.isLive reading entry = true) : store.isLive now entry = true := by
  rw [isLive_iff_not_overdue lasting] at live ⊢
  unfold Settings.Overdue at live ⊢
  omega

/-- The entry of a text in a group, unless it has expired. -/
def live? (store : Store) (now : Instant) (name text : String) : Option Entry :=
  (store.held? name text).filter (store.isLive now)

theorem live?_eq_some_iff :
    store.live? now name text = some entry ↔
      store.held? name text = some entry ∧ store.isLive now entry = true :=
  Option.filter_eq_some_iff

/-- Every entry has an order of its own, which has been given out. -/
structure Ordered (store : Store) : Prop where
  below : ∀ {name text entry}, store.held? name text = some entry → entry.order < store.indexed
  distinct : ∀ {name text entry otherName otherText other},
    store.held? name text = some entry → store.held? otherName otherText = some other →
    entry.order = other.order → (name, text) = (otherName, otherText)

/-- Every group holds an entry. -/
def GroupsTaken (store : Store) : Prop :=
  ∀ name group, store.groups.find? name = some group → group.isEmpty = false

theorem groupsTaken_written (taken : store.GroupsTaken) :
    (store.written now text name).GroupsTaken := by
  intro other group found
  simp only [written, Directory.find?_insert] at found
  split at found
  · cases found
    exact Directory.isEmpty_insert _ _ _
  · exact taken other group found

theorem groupsTaken_swept : (store.swept now).GroupsTaken := by
  intro other group found
  rw [swept, Directory.find?_filter, Option.filter_eq_some_iff] at found
  simpa using found.2

theorem mem_names_iff (taken : store.GroupsTaken) :
    name ∈ store.groups.names ↔ name ∈ store.entries.map Prod.fst := by
  simp only [Directory.names, entries, List.map_flatMap, List.map_map, List.mem_map,
    List.mem_flatMap, Function.comp_apply]
  constructor
  · intro given
    obtain ⟨⟨other, group⟩, listed, rfl⟩ := given
    have holds := taken other group (Directory.find?_eq_some_iff.mpr listed)
    obtain ⟨place, member⟩ := List.exists_mem_of_ne_nil group.entries (by
      simpa [Directory.isEmpty] using holds)
    exact ⟨(other, group), listed, place, member, rfl⟩
  · intro given
    obtain ⟨group, listed, _, _, rfl⟩ := given
    exact ⟨group, listed, rfl⟩

theorem groupCount_eq (taken : store.GroupsTaken) :
    store.groupCount = (store.entries.map Prod.fst).dedup.length := by
  have same : store.groups.names.Perm (store.entries.map Prod.fst).dedup := by
    refine (List.perm_ext_iff_of_nodup store.groups.distinct (List.nodup_dedup _)).mpr ?_
    intro name
    rw [List.mem_dedup]
    exact mem_names_iff taken
  simpa [Directory.names, groupCount, Directory.size] using same.length_eq

theorem isEmpty_iff (taken : store.GroupsTaken) :
    store.isEmpty = true ↔ store.entryCount = 0 := by
  have count := groupCount_eq taken
  rw [isEmpty, Directory.isEmpty, List.isEmpty_iff, ← List.length_eq_zero_iff]
  change store.groupCount = 0 ↔ _
  rw [count, List.length_eq_zero_iff, List.dedup_eq_nil, List.map_eq_nil_iff, entryCount,
    List.length_eq_zero_iff]

end Store

end Retrieval.Suggestion
