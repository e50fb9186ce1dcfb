import Retrieval.Proofs.Suggestion.Ranking

namespace Retrieval.Suggestion

namespace Store

variable {store : Store} {now : Instant} {matcher : PrefixMatcher} {groups : List String}
  {candidates : List Candidate} {candidate leader other : Candidate} {seen : List String}

/-- The first candidate of each text that has not been seen. -/
def leaders (seen : List String) : List Candidate → List Candidate
  | [] => []
  | candidate :: rest =>
      if seen.contains candidate.hit.text then
        leaders seen rest
      else
        candidate :: leaders (candidate.hit.text :: seen) rest

theorem map_hit_leaders (seen : List String) (candidates : List Candidate) :
    (leaders seen candidates).map Candidate.hit =
      firstOfEach seen (candidates.map Candidate.hit) := by
  induction candidates generalizing seen with
  | nil => rfl
  | cons candidate rest induction =>
      simp only [leaders, firstOfEach, List.map_cons]
      split
      · exact induction seen
      · exact congrArg (candidate.hit :: ·) (induction _)

theorem leaders_sublist (seen : List String) (candidates : List Candidate) :
    (leaders seen candidates).Sublist candidates := by
  induction candidates generalizing seen with
  | nil => exact .refl _
  | cons candidate rest induction =>
      simp only [leaders]
      split
      · exact (induction seen).cons candidate
      · exact (induction _).cons_cons candidate

theorem not_mem_seen_of_mem_leaders (leads : leader ∈ leaders seen candidates) :
    leader.hit.text ∉ seen := by
  induction candidates generalizing seen with
  | nil => cases leads
  | cons candidate rest induction =>
      simp only [leaders, List.contains_iff_mem] at leads
      split at leads
      · exact induction leads
      · rename_i unseen
        rcases List.mem_cons.mp leads with rfl | later
        · exact unseen
        · exact fun member => induction later (List.mem_cons_of_mem _ member)

theorem nodup_leaders (seen : List String) (candidates : List Candidate) :
    ((leaders seen candidates).map fun leader => leader.hit.text).Nodup := by
  induction candidates generalizing seen with
  | nil => exact .nil
  | cons candidate rest induction =>
      simp only [leaders]
      split
      · exact induction seen
      · refine List.nodup_cons.mpr ⟨?_, induction _⟩
        intro again
        obtain ⟨leader, leads, same⟩ := List.mem_map.mp again
        exact not_mem_seen_of_mem_leaders leads (same ▸ List.mem_cons_self)

theorem exists_leader (member : candidate ∈ candidates) (unseen : candidate.hit.text ∉ seen) :
    ∃ leader ∈ leaders seen candidates, leader.hit.text = candidate.hit.text := by
  induction candidates generalizing seen with
  | nil => cases member
  | cons first rest induction =>
      simp only [leaders, List.contains_iff_mem]
      split
      · rename_i passed
        rcases List.mem_cons.mp member with rfl | later
        · exact absurd passed unseen
        · exact induction later unseen
      · by_cases same : first.hit.text = candidate.hit.text
        · exact ⟨first, List.mem_cons_self, same⟩
        · have later : candidate ∈ rest :=
            (List.mem_cons.mp member).resolve_left fun equal => same (equal ▸ rfl)
          have stillUnseen : candidate.hit.text ∉ first.hit.text :: seen := fun passed =>
            (List.mem_cons.mp passed).elim (Ne.symm same) unseen
          obtain ⟨leader, leads, found⟩ := induction later stillUnseen
          exact ⟨leader, List.mem_cons_of_mem _ leads, found⟩

/-- Among ranked candidates a leader comes before all others of its text. -/
theorem leader_precedes
    (ranked : candidates.Pairwise Candidate.Precedes)
    (leads : leader ∈ leaders seen candidates) (member : candidate ∈ candidates)
    (same : candidate.hit.text = leader.hit.text) : leader.Precedes candidate := by
  induction candidates generalizing seen with
  | nil => cases member
  | cons first rest induction =>
      obtain ⟨before, following⟩ := List.pairwise_cons.mp ranked
      simp only [leaders, List.contains_iff_mem] at leads
      -- The first candidate is passed over or leads. If it leads, no later one leads its text.
      split at leads
      · rename_i passed
        rcases List.mem_cons.mp member with rfl | later
        · exact absurd (same ▸ passed) (not_mem_seen_of_mem_leaders leads)
        · exact induction following leads later
      · rcases List.mem_cons.mp leads with rfl | leadsLater
        · rcases List.mem_cons.mp member with rfl | later
          · exact .inr ⟨rfl, le_refl _⟩
          · exact before candidate later
        · rcases List.mem_cons.mp member with rfl | later
          · exact absurd (same ▸ List.mem_cons_self) (not_mem_seen_of_mem_leaders leadsLater)
          · exact induction following leadsLater later

/-- What a lookup could give, without a limit to its number. -/
def ranked (store : Store) (now : Instant) (matcher : PrefixMatcher) (groups : List String) :
    List Candidate :=
  leaders [] (sorted (store.found now matcher groups))

theorem suggestIn_of_blank {wanted : String} {size : Option Nat}
    (nothing : Text.isBlank wanted = true ∨ store.settings.effectiveSize size = 0) :
    store.suggestIn now wanted groups size = [] := by
  have skipped : (Text.isBlank wanted || store.settings.effectiveSize size == 0) = true := by
    simpa using nothing
  simp only [suggestIn, lookup?, if_pos skipped, Option.getD_none]

theorem suggestIn_of_solid {wanted : String} (size : Option Nat)
    (solid : Text.isBlank wanted = false) :
    store.suggestIn now wanted groups size =
      ((store.ranked now (store.matcher wanted) groups).map Candidate.hit).take
        (store.settings.effectiveSize size) := by
  by_cases none : store.settings.effectiveSize size = 0
  · rw [suggestIn_of_blank (.inr none), none, List.take_zero]
  · rw [ranked, map_hit_leaders, suggestIn, lookup?, if_neg (by simp [solid, none])]
    rfl

theorem rank?_of_mem_found (found : candidate ∈ store.found now matcher groups) :
    matcher.rank? candidate.hit.text = some candidate.hit.rank := by
  obtain ⟨group, _, member⟩ := mem_found_iff.mp found
  obtain ⟨_, _, ranked, _⟩ := mem_candidates_iff.mp member
  exact ranked

theorem rank_eq_of_text_eq (found : candidate ∈ store.found now matcher groups)
    (otherFound : other ∈ store.found now matcher groups)
    (same : candidate.hit.text = other.hit.text) : candidate.hit.rank = other.hit.rank := by
  have ranked := rank?_of_mem_found found
  rw [same] at ranked
  exact Option.some.inj (ranked.symm.trans (rank?_of_mem_found otherFound))

theorem found_of_mem_ranked (member : candidate ∈ store.ranked now matcher groups) :
    candidate ∈ store.found now matcher groups :=
  mem_sorted.mp ((leaders_sublist _ _).subset member)

theorem nodup_ranked :
    ((store.ranked now matcher groups).map fun candidate => candidate.hit.text).Nodup :=
  nodup_leaders _ _

/-- A text is found if it is live in one of the groups and the prefix matches it. -/
theorem exists_mem_found_iff {text : String} :
    (∃ candidate ∈ store.found now matcher groups, candidate.hit.text = text) ↔
      (∃ group ∈ groups, (store.live? now (Text.trim group) text).isSome) ∧
        (matcher.edits? text).isSome := by
  constructor
  · rintro ⟨candidate, found, rfl⟩
    obtain ⟨group, listed, member⟩ := mem_found_iff.mp found
    obtain ⟨entry, live, ranked, _⟩ := mem_candidates_iff.mp member
    obtain ⟨edits, matched, _⟩ := Option.map_eq_some_iff.mp ranked
    exact ⟨⟨group, listed, by simp [live]⟩, by simp [matched]⟩
  · rintro ⟨⟨group, listed, live⟩, matched⟩
    obtain ⟨entry, live⟩ := Option.isSome_iff_exists.mp live
    obtain ⟨edits, matched⟩ := Option.isSome_iff_exists.mp matched
    have ranked : matcher.rank? text = some (matcher.similarity.rank edits) := by
      rw [PrefixMatcher.rank?, matched, Option.map_some]
    exact ⟨⟨entry.order, ⟨text, _⟩⟩,
      mem_found_iff.mpr ⟨group, listed, mem_candidates_iff.mpr ⟨entry, live, ranked, rfl⟩⟩, rfl⟩

theorem exists_mem_ranked_iff {text : String} :
    (∃ candidate ∈ store.ranked now matcher groups, candidate.hit.text = text) ↔
      ∃ candidate ∈ store.found now matcher groups, candidate.hit.text = text := by
  constructor
  · rintro ⟨candidate, member, same⟩
    exact ⟨candidate, found_of_mem_ranked member, same⟩
  · rintro ⟨candidate, found, rfl⟩
    exact exists_leader (mem_sorted.mpr found) List.not_mem_nil

variable {wanted : String} {size : Option Nat}

/-- A lookup has no text that is not live in one of its groups or that the prefix does not match. -/
theorem found_of_mem_suggestIn {hit : Hit} (given : hit ∈ store.suggestIn now wanted groups size) :
    (∃ group ∈ groups, (store.live? now (Text.trim group) hit.text).isSome) ∧
      ((store.matcher wanted).edits? hit.text).isSome := by
  cases blank : Text.isBlank wanted with
  | true =>
      rw [suggestIn_of_blank (.inl blank)] at given
      cases given
  | false =>
      rw [suggestIn_of_solid size blank] at given
      obtain ⟨candidate, member, rfl⟩ := List.mem_map.mp (List.mem_of_mem_take given)
      exact exists_mem_found_iff.mp ⟨candidate, found_of_mem_ranked member, rfl⟩

theorem suggestIn_of_room (solid : Text.isBlank wanted = false)
    (room : (store.ranked now (store.matcher wanted) groups).length ≤
      store.settings.effectiveSize size) :
    store.suggestIn now wanted groups size =
      (store.ranked now (store.matcher wanted) groups).map Candidate.hit := by
  rw [suggestIn_of_solid size solid, List.take_of_length_le]
  rwa [List.length_map]

/-- A live text that the prefix matches is only left out if there is no room for it. -/
theorem given_or_full {group text : String} (solid : Text.isBlank wanted = false)
    (listed : group ∈ groups) (live : (store.live? now (Text.trim group) text).isSome)
    (matched : ((store.matcher wanted).edits? text).isSome) :
    text ∈ (store.suggestIn now wanted groups size).map Hit.text ∨
      (store.suggestIn now wanted groups size).length = store.settings.effectiveSize size := by
  by_cases room : (store.ranked now (store.matcher wanted) groups).length ≤
      store.settings.effectiveSize size
  · have found := exists_mem_found_iff.mpr ⟨⟨group, listed, live⟩, matched⟩
    obtain ⟨candidate, member, rfl⟩ := exists_mem_ranked_iff.mpr found
    rw [suggestIn_of_room solid room]
    exact .inl (List.mem_map_of_mem (List.mem_map_of_mem member))
  · rw [suggestIn_of_solid size solid]
    refine .inr (List.length_take_of_le ?_)
    rw [List.length_map]
    omega

/-- Of the candidates of a text, all of which have one rank, the first in order leads. -/
theorem order_le_of_mem_ranked (leads : leader ∈ store.ranked now matcher groups)
    (found : other ∈ store.found now matcher groups)
    (same : other.hit.text = leader.hit.text) : leader.order ≤ other.order := by
  have sameRank := rank_eq_of_text_eq found (found_of_mem_ranked leads) same
  rcases leader_precedes (pairwise_sorted _) leads (mem_sorted.mpr found) same with better | first
  · exact absurd sameRank.symm (Nat.ne_of_lt better)
  · exact first.2

theorem mem_ranked_iff (ordered : store.Ordered) :
    candidate ∈ store.ranked now matcher groups ↔
      candidate ∈ store.found now matcher groups ∧
        ∀ other ∈ store.found now matcher groups,
          other.hit.text = candidate.hit.text → candidate.order ≤ other.order := by
  constructor
  · intro leads
    exact ⟨found_of_mem_ranked leads, fun other found same =>
      order_le_of_mem_ranked leads found same⟩
  · rintro ⟨found, earliest⟩
    obtain ⟨leader, leads, same⟩ := exists_mem_ranked_iff.mpr ⟨candidate, found, rfl⟩
    have leaderFound := found_of_mem_ranked leads
    have sameOrder := Nat.le_antisymm (earliest leader leaderFound same)
      (order_le_of_mem_ranked leads found same.symm)
    have sameRank := rank_eq_of_text_eq found leaderFound same.symm
    rw [eq_of_order_eq ordered found leaderFound sameRank sameOrder]
    exact leads

/-- No two places of the ranking are equal. -/
theorem ranked_increasing (ordered : store.Ordered) :
    (store.ranked now matcher groups).Pairwise fun candidate other =>
      candidate.hit.rank < other.hit.rank ∨
        candidate.hit.rank = other.hit.rank ∧ candidate.order < other.order := by
  have inOrder := (pairwise_sorted (store.found now matcher groups)).sublist (leaders_sublist [] _)
  refine (inOrder.and (List.pairwise_map.mp nodup_ranked)).imp_of_mem ?_
  rintro candidate other member otherMember ⟨precedes, different⟩
  rcases precedes with better | ⟨equal, earlier⟩
  · exact .inl better
  · refine .inr ⟨equal, Nat.lt_of_le_of_ne earlier fun sameOrder => different ?_⟩
    rw [eq_of_order_eq ordered (found_of_mem_ranked member) (found_of_mem_ranked otherMember)
      equal sameOrder]

/-- The stores hold the same entries, in whatever order they list them. -/
structure SameContents (left right : Store) : Prop where
  settings : right.settings = left.settings
  indexed : right.indexed = left.indexed
  held : ∀ name text, right.held? name text = left.held? name text

variable {left right : Store} {leftGroups rightGroups : List String}

theorem SameContents.ordered (same : SameContents left right) (ordered : left.Ordered) :
    right.Ordered where
  below found := by
    rw [same.held] at found
    exact same.indexed ▸ ordered.below found
  distinct found otherFound sameOrder := by
    rw [same.held] at found otherFound
    exact ordered.distinct found otherFound sameOrder

theorem SameContents.mem_found_iff (same : SameContents left right)
    (sameGroups : ∀ name, name ∈ rightGroups.map Text.trim ↔ name ∈ leftGroups.map Text.trim) :
    candidate ∈ right.found now matcher rightGroups ↔
      candidate ∈ left.found now matcher leftGroups := by
  have inNames (store : Store) (groups : List String) :
      candidate ∈ store.found now matcher groups ↔ ∃ name ∈ groups.map Text.trim, ∃ entry,
        store.live? now name candidate.hit.text = some entry ∧
          matcher.rank? candidate.hit.text = some candidate.hit.rank ∧
          candidate.order = entry.order := by
    simp only [Store.mem_found_iff, mem_candidates_iff, List.mem_map, exists_exists_and_eq_and]
  simp only [inNames, sameGroups, live?, same.held, isLive_congr same.settings]

end Store

end Retrieval.Suggestion
