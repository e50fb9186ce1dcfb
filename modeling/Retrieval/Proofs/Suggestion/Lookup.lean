import Mathlib.Order.Bounds.Basic
import Retrieval.Proofs.Suggestion.Answers
import Retrieval.Proofs.Suggestion.Cleanup
import Retrieval.Proofs.Suggestion.Distance

namespace Retrieval.Suggestion

namespace PrefixMatcher

variable {matcher : PrefixMatcher} {text : String} {edits rank : Nat}

theorem edits_le_maxEdits (matched : matcher.edits? text = some edits) :
    edits ≤ matcher.maxEdits := by
  have within := (edits?_eq_some_iff.mp matched).2
  unfold tolerance at within
  split at within <;> omega

theorem rank_le_maxEdits (ranked : matcher.rank? text = some rank) : rank ≤ matcher.maxEdits := by
  obtain ⟨edits, matched, rfl⟩ := Option.map_eq_some_iff.mp ranked
  cases matcher.similarity with
  | uniform => exact Nat.zero_le _
  | editDistance => exact edits_le_maxEdits matched

end PrefixMatcher

/-- Within the limit on edits a better rank has a better score. -/
theorem Similarity.scoreOfRank_lt {rank other : Nat} (better : rank < other) (few : other ≤ 2) :
    scoreOfRank other < scoreOfRank rank := by
  obtain rfl | rfl : other = 1 ∨ other = 2 := by omega
  · obtain rfl : rank = 0 := by omega
    decide
  · obtain rfl | rfl : rank = 0 ∨ rank = 1 := by omega
    · decide
    · decide

namespace Session

variable {calls : List Call} {store : Store} {now : Instant} {matcher : PrefixMatcher}
  {groups : List String} {text : String} {hits others : List Hit} {candidate : Store.Candidate}

/-- The positions of the last calls that indexed the text in those of the groups where it is
live. -/
def livePositions (calls : List Call) (store : Store) (now : Instant) (groups : List String)
    (text : String) : Set Nat :=
  {position | ∃ group ∈ groups, ∃ entry,
    store.live? now (Text.trim group) text = some entry ∧
      LastIndexed calls (Text.trim group, text) position entry.stamp}

/-- All that a prefix finds in some groups, in the order in which a lookup gives it. -/
structure Ranking (calls : List Call) (store : Store) (now : Instant) (matcher : PrefixMatcher)
    (groups : List String) (hits : List Hit) : Prop where
  distinct : (hits.map Hit.text).Nodup
  found : ∀ text, text ∈ hits.map Hit.text ↔
    (∃ group ∈ groups, (store.live? now (Text.trim group) text).isSome) ∧
      (matcher.edits? text).isSome
  placed : ∀ hit ∈ hits, ∃ edits, matcher.edits? hit.text = some edits ∧
    hit.rank = matcher.similarity.rank edits
  /-- The better score comes first, and of equal scores the earlier of the first positions. -/
  sorted : hits.Pairwise fun hit other =>
    hit.rank < other.rank ∧ other.score < hit.score ∨
      hit.rank = other.rank ∧ ∃ position otherPosition,
        IsLeast (livePositions calls store now groups hit.text) position ∧
          IsLeast (livePositions calls store now groups other.text) otherPosition ∧
          position < otherPosition

theorem Ranking.subset (ranking : Ranking calls store now matcher groups hits)
    (otherRanking : Ranking calls store now matcher groups others) : hits ⊆ others := by
  intro hit member
  have listed := (otherRanking.found hit.text).mpr
    ((ranking.found hit.text).mp (List.mem_map_of_mem member))
  obtain ⟨other, otherMember, same⟩ := List.mem_map.mp listed
  obtain ⟨edits, matched, rank⟩ := ranking.placed hit member
  obtain ⟨otherEdits, otherMatched, otherRank⟩ := otherRanking.placed other otherMember
  rw [same, matched] at otherMatched
  cases otherMatched
  have equal : other = hit := congrArg₂ Hit.mk same (otherRank.trans rank.symm)
  exact equal ▸ otherMember

/-- There is no other ranking. -/
theorem Ranking.unique (ranking : Ranking calls store now matcher groups hits)
    (otherRanking : Ranking calls store now matcher groups others) : hits = others := by
  have same : hits.Perm others :=
    (List.perm_ext_iff_of_nodup (List.Nodup.of_map _ ranking.distinct)
      (List.Nodup.of_map _ otherRanking.distinct)).mpr fun _ =>
        ⟨fun member => ranking.subset otherRanking member,
          fun member => otherRanking.subset ranking member⟩
  refine same.eq_of_pairwise ?_ ranking.sorted otherRanking.sorted
  intro hit other _ _ before after
  -- First positions belong to texts, so the two rankings compare by the same ones.
  rcases before with ⟨better, _⟩ | ⟨equal, position, otherPosition, least, otherLeast, earlier⟩
  · rcases after with ⟨worse, _⟩ | ⟨equal, _⟩ <;> omega
  · rcases after with ⟨worse, _⟩ | ⟨_, _, _, otherFirst, first, later⟩
    · omega
    · rw [otherFirst.unique otherLeast, first.unique least] at later
      omega

/-- A candidate of the ranking was indexed last at the first of the positions of its text. -/
theorem Recorded.isLeast_livePositions (recorded : Recorded calls store)
    (member : candidate ∈ store.ranked now matcher groups) :
    ∃ position, IsLeast (livePositions calls store now groups candidate.hit.text) position ∧
      candidate.order = indexings (calls.take position) := by
  obtain ⟨found, earliest⟩ := (Store.mem_ranked_iff recorded.ordered).mp member
  obtain ⟨group, listed, inGroup⟩ := Store.mem_found_iff.mp found
  obtain ⟨entry, live, ranked, order⟩ := Store.mem_candidates_iff.mp inGroup
  have held := (Store.live?_eq_some_iff.mp live).1
  obtain ⟨position, last, _, _⟩ := (recorded.held _ _ _).mp held
  refine ⟨position, ⟨⟨group, listed, entry, live, last⟩, ?_⟩, ?_⟩
  · rintro other ⟨otherGroup, otherListed, otherEntry, otherLive, otherLast⟩
    have otherHeld := (Store.live?_eq_some_iff.mp otherLive).1
    have otherFound : ⟨otherEntry.order, candidate.hit⟩ ∈ store.found now matcher groups :=
      Store.mem_found_iff.mpr ⟨otherGroup, otherListed,
        Store.mem_candidates_iff.mpr ⟨otherEntry, otherLive, ranked, rfl⟩⟩
    have notLater := earliest _ otherFound rfl
    rw [order, ← Nat.not_lt, recorded.order_lt_iff otherHeld held otherLast last] at notLater
    exact Nat.le_of_not_lt notLater
  · rw [order, recorded.order_eq held last]

theorem indexings_take_mono {earlier later : Nat} (before : earlier ≤ later) :
    indexings (calls.take earlier) ≤ indexings (calls.take later) :=
  ((List.take_prefix_take_left before).sublist).countP_le

theorem Recorded.ranking (recorded : Recorded calls store) (few : matcher.maxEdits ≤ 2) :
    Ranking calls store now matcher groups
      ((store.ranked now matcher groups).map Store.Candidate.hit) where
  distinct := by
    rw [List.map_map]
    exact Store.nodup_ranked
  found text := by
    rw [← Store.exists_mem_found_iff, ← Store.exists_mem_ranked_iff]
    simp
  placed := by
    intro hit listed
    obtain ⟨candidate, member, rfl⟩ := List.mem_map.mp listed
    have ranked := Store.rank?_of_mem_found (Store.found_of_mem_ranked member)
    obtain ⟨edits, matched, rank⟩ := Option.map_eq_some_iff.mp ranked
    exact ⟨edits, matched, rank.symm⟩
  sorted := by
    refine List.pairwise_map.mpr ((Store.ranked_increasing recorded.ordered).imp_of_mem ?_)
    intro candidate other member otherMember before
    rcases before with better | ⟨equal, earlier⟩
    · have ranked := Store.rank?_of_mem_found (Store.found_of_mem_ranked otherMember)
      have within := (PrefixMatcher.rank_le_maxEdits ranked).trans few
      exact .inl ⟨better, Similarity.scoreOfRank_lt better within⟩
    · obtain ⟨position, least, order⟩ := recorded.isLeast_livePositions member
      obtain ⟨otherPosition, otherLeast, otherOrder⟩ :=
        recorded.isLeast_livePositions otherMember
      refine .inr ⟨equal, position, otherPosition, least, otherLeast, ?_⟩
      rw [order, otherOrder] at earlier
      by_contra notBefore
      exact absurd (indexings_take_mono (Nat.le_of_not_lt notBefore)) (Nat.not_le_of_lt earlier)

end Session

end Retrieval.Suggestion
