import Retrieval.Instant
import Retrieval.Suggestion.Settings

/-!
Texts that have been searched for, in groups. An entry expires when it has not been indexed again
for its time to live: from then on no lookup finds it, and the next cleanup removes it.
-/

namespace Retrieval.Suggestion

/-- When a text was last indexed, by the clock and by the count of all indexing. -/
structure Entry where
  stamp : Instant
  order : Nat
  deriving DecidableEq, Repr, Inhabited

abbrev Group := Directory Entry

structure Store where
  settings : Settings
  groups : Directory Group := .empty
  /-- The count of all indexing so far, which orders the entries. -/
  indexed : Nat := 0
  /-- The number of entries, kept up to date for reporting. -/
  gauge : Nat := 0
  deriving Inhabited

structure Hit where
  text : String
  rank : Nat
  deriving DecidableEq, Repr, Inhabited

def Hit.score (hit : Hit) : Float :=
  Similarity.scoreOfRank hit.rank

namespace Store

inductive Fault where
  | blankText
  | blankGroup
  deriving DecidableEq, Repr

def Fault.message : Fault → String
  | blankText => "suggestion text must not be blank"
  | blankGroup => "suggestion group must not be blank"

def create (settings : Settings) : Except Settings.Fault Store := do
  settings.check
  return { settings }

/-- The earliest stamp that has not expired. Near the beginning of the calendar there is none, and
nothing has expired. -/
def cutoff? (store : Store) (now : Instant) : Option Instant :=
  now.later? (-(store.settings.ttl * nanosPerSecond))

def isLive (store : Store) (now : Instant) (entry : Entry) : Bool :=
  match store.cutoff? now with
  | some cutoff => ¬entry.stamp < cutoff
  | none => true

def group (store : Store) (name : String) : Group :=
  (store.groups.find? name).getD .empty

def held? (store : Store) (group text : String) : Option Entry :=
  (store.group group).find? text

def index (store : Store) (now : Instant) (text group : String) : Except Fault Store := do
  if Text.isBlank text then
    throw .blankText
  if Text.isBlank group then
    throw .blankGroup
  let text := Text.trim text
  let group := Text.trim group
  let entries := store.group group
  let isNew := (entries.find? text).isNone
  return { store with
    groups := store.groups.insert group (entries.insert text ⟨now, store.indexed⟩)
    indexed := store.indexed + 1
    gauge := if isNew then store.gauge + 1 else store.gauge }

structure Candidate where
  order : Nat
  hit : Hit
  deriving DecidableEq, Repr

def candidates (store : Store) (now : Instant) (matcher : PrefixMatcher) (group : String) :
    List Candidate :=
  (store.group (Text.trim group)).entries.filterMap fun (text, entry) =>
    if store.isLive now entry then
      (matcher.rank? text).map fun rank => ⟨entry.order, ⟨text, rank⟩⟩
    else
      none

/-- Candidates in the order of indexing, then by rank. The second sort is stable, so candidates of
equal rank stay in the order of indexing. -/
def sorted (candidates : List Candidate) : List Candidate :=
  let inOrder := candidates.mergeSort fun left right => left.order ≤ right.order
  inOrder.mergeSort fun left right => left.hit.rank ≤ right.hit.rank

def firstOfEach (seen : List String) : List Hit → List Hit
  | [] => []
  | hit :: rest =>
      if seen.contains hit.text then
        firstOfEach seen rest
      else
        hit :: firstOfEach (hit.text :: seen) rest

def matcher (store : Store) (wanted : String) : PrefixMatcher :=
  .ofPrefix wanted store.settings.maxEdits store.settings.fuzzyMinLength store.settings.similarity

/-- The best suggestions for a prefix in some groups. Each text is given once, at its best place.
There is no lookup, and no answer, for a blank prefix or a size of zero. -/
def lookup? (store : Store) (now : Instant) (wanted : String) (groups : List String)
    (size : Option Nat) : Option (List Hit) :=
  let size := store.settings.effectiveSize size
  if Text.isBlank wanted || size == 0 then
    none
  else
    let found := groups.flatMap (store.candidates now (store.matcher wanted))
    let ranked := (sorted found).map Candidate.hit
    some ((firstOfEach [] ranked).take size)

def suggestIn (store : Store) (now : Instant) (wanted : String) (groups : List String)
    (size : Option Nat) : List Hit :=
  (store.lookup? now wanted groups size).getD []

def suggest (store : Store) (now : Instant) (wanted group : String) (size : Option Nat) :
    List Hit :=
  store.suggestIn now wanted [group] size

def entries (store : Store) : List (String × String × Entry) :=
  store.groups.entries.flatMap fun group => group.2.entries.map fun entry => (group.1, entry)

def entryCount (store : Store) : Nat :=
  store.entries.length

def groupCount (store : Store) : Nat :=
  store.groups.size

def isEmpty (store : Store) : Bool :=
  store.groups.isEmpty

/-- Removes the expired entries, and the groups that lose their last entry. -/
def swept (store : Store) (now : Instant) : Store :=
  let live := (store.groups.map fun group => group.filter (store.isLive now)).filter
    fun group => !group.isEmpty
  { store with groups := live }

def cleanup (store : Store) (now : Instant) : Nat × Store :=
  let after := store.swept now
  (store.entryCount - after.entryCount, { after with gauge := after.entryCount })

end Store

end Retrieval.Suggestion
