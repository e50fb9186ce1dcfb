import Retrieval.Proofs.Suggestion.Contents

namespace Retrieval.Suggestion

def Entry.renamed (rename : Nat → Nat) (entry : Entry) : Entry :=
  { entry with order := rename entry.order }

namespace Store

variable {left right store : Store} {now : Instant} {rename : Nat → Nat}
variable {matcher : PrefixMatcher} {group : String} {within : String → Prop}
variable {candidate other : Candidate}

def Candidate.renamed (rename : Nat → Nat) (candidate : Candidate) : Candidate :=
  { candidate with order := rename candidate.order }

/-- Within some groups both stores have the same live texts. Their orders have been renamed, but
they compare in the same way. -/
structure Alike (within : String → Prop) (rename : Nat → Nat) (now : Instant)
    (left right : Store) : Prop where
  settings : right.settings = left.settings
  live : ∀ name, within name → ∀ text,
    right.live? now name text = (left.live? now name text).map (Entry.renamed rename)
  increasing : ∀ {name text entry otherName otherText other}, within name → within otherName →
    left.live? now name text = some entry → left.live? now otherName otherText = some other →
    entry.order < other.order → rename entry.order < rename other.order

theorem mem_candidates_iff :
    candidate ∈ store.candidates now matcher group ↔
      ∃ entry, store.live? now (Text.trim group) candidate.hit.text = some entry ∧
        matcher.rank? candidate.hit.text = some candidate.hit.rank ∧
        candidate.order = entry.order := by
  simp only [candidates, List.mem_filterMap, live?_eq_some_iff]
  constructor
  · intro given
    obtain ⟨⟨text, entry⟩, listed, given⟩ := given
    split at given
    · rename_i live
      obtain ⟨rank, ranked, rfl⟩ := Option.map_eq_some_iff.mp given
      exact ⟨entry, ⟨Directory.find?_eq_some_iff.mpr listed, live⟩, ranked, rfl⟩
    · contradiction
  · obtain ⟨order, text, rank⟩ := candidate
    intro given
    obtain ⟨entry, ⟨found, live⟩, ranked, rfl⟩ := given
    exact ⟨(text, entry), Directory.find?_eq_some_iff.mp found, by simp only [live, ranked]; rfl⟩

/-- No text is found twice in a group. -/
theorem nodup_candidates :
    ((store.candidates now matcher group).map fun candidate => candidate.hit.text).Nodup := by
  have textOf {place : String × Entry} {candidate : Candidate}
      (given : (if store.isLive now place.2 then
        (matcher.rank? place.1).map fun rank => (⟨place.2.order, ⟨place.1, rank⟩⟩ : Candidate)
      else none) = some candidate) : candidate.hit.text = place.1 := by
    split at given
    · obtain ⟨rank, _, rfl⟩ := Option.map_eq_some_iff.mp given
      rfl
    · contradiction
  refine List.pairwise_map.mpr (List.pairwise_filterMap.mpr ?_)
  refine (List.pairwise_map.mp (store.group (Text.trim group)).distinct).imp ?_
  intro place otherPlace different candidate given other otherGiven
  rw [textOf given, textOf otherGiven]
  exact different

theorem candidates_perm (alike : Alike within rename now left right)
    (inside : within (Text.trim group)) :
    (right.candidates now matcher group).Perm
      ((left.candidates now matcher group).map (Candidate.renamed rename)) := by
  have distinct : ((left.candidates now matcher group).map (Candidate.renamed rename)).Nodup := by
    refine List.Nodup.of_map (fun candidate => candidate.hit.text) ?_
    rw [List.map_map]
    exact nodup_candidates
  refine (List.perm_ext_iff_of_nodup (List.Nodup.of_map _ nodup_candidates) distinct).mpr ?_
  intro candidate
  rw [List.mem_map, mem_candidates_iff, alike.live _ inside]
  constructor
  · intro given
    obtain ⟨entry, live, ranked, order⟩ := given
    obtain ⟨old, oldLive, rfl⟩ := Option.map_eq_some_iff.mp live
    refine ⟨⟨old.order, candidate.hit⟩, mem_candidates_iff.mpr ⟨old, oldLive, ranked, rfl⟩, ?_⟩
    obtain ⟨_, hit⟩ := candidate
    cases order
    rfl
  · intro given
    obtain ⟨old, found, rfl⟩ := given
    obtain ⟨entry, live, ranked, order⟩ := mem_candidates_iff.mp found
    exact ⟨entry.renamed rename, by rw [Candidate.renamed, live]; rfl, ranked,
      congrArg rename order⟩

/-- All that a lookup ranks. -/
def found (store : Store) (now : Instant) (matcher : PrefixMatcher) (groups : List String) :
    List Candidate :=
  groups.flatMap (store.candidates now matcher)

theorem found_perm {groups : List String} (alike : Alike within rename now left right)
    (inside : ∀ group ∈ groups, within (Text.trim group)) :
    (right.found now matcher groups).Perm
      ((left.found now matcher groups).map (Candidate.renamed rename)) := by
  unfold found
  rw [List.map_flatMap]
  refine List.Perm.flatMap_left groups fun group listed => ?_
  exact candidates_perm alike (inside group listed)

/-- Better ranks come first, and of equal ranks the candidate that was indexed earlier. -/
def Candidate.Precedes (candidate other : Candidate) : Prop :=
  candidate.hit.rank < other.hit.rank ∨
    candidate.hit.rank = other.hit.rank ∧ candidate.order ≤ other.order

theorem pairwise_mergeSort_key (key : α → Nat) (items : List α) :
    (items.mergeSort fun left right => key left ≤ key right).Pairwise fun left right =>
      key left ≤ key right := by
  refine (List.pairwise_mergeSort ?_ ?_ items).imp of_decide_eq_true
  · intro first second third
    simpa using Nat.le_trans
  · intro first second
    simpa using Nat.le_total (key first) (key second)

/-- A sort by a key keeps the items of one key as they come. -/
theorem filter_mergeSort_key (key : α → Nat) (value : Nat) (items : List α) :
    (items.mergeSort fun left right => key left ≤ key right).filter (key · == value) =
      items.filter (key · == value) := by
  have level : (items.filter (key · == value)).Pairwise fun left right =>
      decide (key left ≤ key right) = true := by
    refine List.pairwise_of_forall_mem_list fun left leftListed right rightListed => ?_
    have leftKey := (List.mem_filter.mp leftListed).2
    have rightKey := (List.mem_filter.mp rightListed).2
    rw [beq_iff_eq] at leftKey rightKey
    simp [leftKey, rightKey]
  have kept := List.sublist_mergeSort (fun _ _ _ => by simpa using Nat.le_trans)
    (fun _ _ => by simpa using Nat.le_total _ _) level List.filter_sublist
  have filtered := kept.filter (key · == value)
  rw [List.filter_filter] at filtered
  simp only [Bool.and_self] at filtered
  exact (filtered.eq_of_length ((List.mergeSort_perm _ _).filter _).length_eq.symm).symm

theorem sorted_perm (candidates : List Candidate) : (sorted candidates).Perm candidates :=
  (List.mergeSort_perm _ _).trans (List.mergeSort_perm _ _)

theorem mem_sorted {candidates : List Candidate} :
    candidate ∈ sorted candidates ↔ candidate ∈ candidates :=
  (sorted_perm candidates).mem_iff

/-- The order of indexing survives the sort by rank where ranks are equal. -/
theorem pairwise_sorted (candidates : List Candidate) :
    (sorted candidates).Pairwise Candidate.Precedes := by
  refine List.pairwise_iff_forall_sublist.mpr fun {candidate other} inside => ?_
  have ranks := pairwise_mergeSort_key (fun candidate : Candidate => candidate.hit.rank)
    (candidates.mergeSort fun left right => left.order ≤ right.order)
  rcases Nat.lt_or_eq_of_le (List.pairwise_iff_forall_sublist.mp ranks inside) with better | equal
  · exact .inl better
  · have together := inside.filter (·.hit.rank == other.hit.rank)
    rw [sorted, filter_mergeSort_key (fun candidate : Candidate => candidate.hit.rank)] at together
    have inOrder : [candidate, other].Sublist
        (candidates.mergeSort fun left right => left.order ≤ right.order) := by
      simpa [equal] using together.trans List.filter_sublist
    exact .inr ⟨equal, List.pairwise_iff_forall_sublist.mp
      (pairwise_mergeSort_key Candidate.order candidates) inOrder⟩

theorem mem_found_iff {groups : List String} :
    candidate ∈ store.found now matcher groups ↔
      ∃ group ∈ groups, candidate ∈ store.candidates now matcher group :=
  List.mem_flatMap

/-- Candidates of the same rank and the same order are the same. -/
theorem eq_of_order_eq {groups : List String} (ordered : store.Ordered)
    (found : candidate ∈ store.found now matcher groups)
    (otherFound : other ∈ store.found now matcher groups)
    (sameRank : candidate.hit.rank = other.hit.rank) (sameOrder : candidate.order = other.order) :
    candidate = other := by
  obtain ⟨group, _, member⟩ := mem_found_iff.mp found
  obtain ⟨otherGroup, _, otherMember⟩ := mem_found_iff.mp otherFound
  obtain ⟨entry, live, _, order⟩ := mem_candidates_iff.mp member
  obtain ⟨otherEntry, otherLive, _, otherOrder⟩ := mem_candidates_iff.mp otherMember
  have samePlace := ordered.distinct (live?_eq_some_iff.mp live).1
    (live?_eq_some_iff.mp otherLive).1 (by rw [← order, ← otherOrder, sameOrder])
  obtain ⟨_, text, rank⟩ := candidate
  obtain ⟨_, otherText, otherRank⟩ := other
  cases sameRank
  cases sameOrder
  cases (Prod.mk.inj samePlace).2
  rfl

theorem rename_lt_iff {groups : List String}
    (alike : Alike within rename now left right)
    (inside : ∀ group ∈ groups, within (Text.trim group))
    (found : candidate ∈ left.found now matcher groups)
    (otherFound : other ∈ left.found now matcher groups) :
    rename candidate.order < rename other.order ↔ candidate.order < other.order := by
  obtain ⟨group, listed, member⟩ := mem_found_iff.mp found
  obtain ⟨otherGroup, otherListed, otherMember⟩ := mem_found_iff.mp otherFound
  obtain ⟨entry, live, _, order⟩ := mem_candidates_iff.mp member
  obtain ⟨otherEntry, otherLive, _, otherOrder⟩ := mem_candidates_iff.mp otherMember
  have forward := alike.increasing (inside _ listed) (inside _ otherListed) live otherLive
  have backward := alike.increasing (inside _ otherListed) (inside _ listed) otherLive live
  rw [← order, ← otherOrder] at forward backward
  constructor
  · intro less
    rcases Nat.lt_trichotomy candidate.order other.order with earlier | same | later
    · exact earlier
    · exact absurd less (same ▸ Nat.lt_irrefl _)
    · exact absurd less (backward later).asymm
  · exact forward

/-- What a lookup ranks comes out in the same order in stores that are alike. -/
theorem sorted_eq {groups : List String} (ordered : left.Ordered)
    (alike : Alike within rename now left right)
    (inside : ∀ group ∈ groups, within (Text.trim group)) :
    sorted (right.found now matcher groups) =
      (sorted (left.found now matcher groups)).map (Candidate.renamed rename) := by
  have precedes_iff : ∀ candidate ∈ left.found now matcher groups,
      ∀ other ∈ left.found now matcher groups,
      (candidate.renamed rename).Precedes (other.renamed rename) ↔ candidate.Precedes other := by
    intro candidate found other otherFound
    have orders := not_congr (rename_lt_iff alike inside otherFound found)
    rw [Nat.not_lt, Nat.not_lt] at orders
    exact or_congr_right (and_congr_right fun _ => orders)
  have renamed : ((sorted (left.found now matcher groups)).map (Candidate.renamed rename)).Pairwise
      Candidate.Precedes := by
    refine List.pairwise_map.mpr ((pairwise_sorted _).imp_of_mem ?_)
    intro candidate other member otherMember
    exact (precedes_iff candidate (mem_sorted.mp member) other (mem_sorted.mp otherMember)).mpr
  have permuted : (sorted (right.found now matcher groups)).Perm
      ((sorted (left.found now matcher groups)).map (Candidate.renamed rename)) :=
    (sorted_perm _).trans ((found_perm alike inside).trans ((sorted_perm _).map _).symm)
  refine permuted.eq_of_pairwise ?_ (pairwise_sorted _) renamed
  intro candidate other member otherMember earlier later
  obtain ⟨old, found, rfl⟩ := List.mem_map.mp (permuted.mem_iff.mp member)
  obtain ⟨otherOld, otherFound, rfl⟩ := List.mem_map.mp otherMember
  rw [mem_sorted] at found otherFound
  rw [precedes_iff old found otherOld otherFound, Candidate.Precedes] at earlier
  rw [precedes_iff otherOld otherFound old found, Candidate.Precedes] at later
  rw [eq_of_order_eq ordered found otherFound (by omega) (by omega)]

theorem suggestIn_congr {wanted : String} {groups : List String} {size : Option Nat}
    (ordered : left.Ordered) (alike : Alike within rename now left right)
    (inside : ∀ group ∈ groups, within (Text.trim group)) :
    right.suggestIn now wanted groups size = left.suggestIn now wanted groups size := by
  have sameMatcher : right.matcher wanted = left.matcher wanted := by
    simp only [Store.matcher, alike.settings]
  have hits : Candidate.hit ∘ Candidate.renamed rename = Candidate.hit := rfl
  have ranked : (sorted (right.found now (left.matcher wanted) groups)).map Candidate.hit =
      (sorted (left.found now (left.matcher wanted) groups)).map Candidate.hit := by
    rw [sorted_eq ordered alike inside, List.map_map, hits]
  unfold found at ranked
  simp only [suggestIn, lookup?, sameMatcher, alike.settings, ranked]

end Store

end Retrieval.Suggestion
