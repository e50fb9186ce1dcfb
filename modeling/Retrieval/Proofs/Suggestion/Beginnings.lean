import Retrieval.Proofs.Suggestion.Answers
import Retrieval.Proofs.Suggestion.Distance
import Retrieval.Proofs.Text.LowerCase

/-!
Which live texts their own beginnings find. Where there is room for a whole group, a lookup gives
all of its texts that the prefix matches; and a text is matched by its beginnings without any edit,
unless the beginning cuts a word behind a capital sigma.
-/

namespace Retrieval.Suggestion

namespace PrefixMatcher

variable {matcher : PrefixMatcher} {wanted text : String} {maxEdits fuzzyMinLength : Nat}
  {similarity : Similarity} {rest : List Char}

/-- A beginning that cuts a word behind a sigma is one edit away from its text. -/
theorem edits?_of_cut (begins : text.toList = Text.trimChars wanted.toList ++ rest)
    (cut : Text.CutsWord (Text.trimChars wanted.toList) rest) :
    (ofPrefix wanted maxEdits fuzzyMinLength similarity).edits? text =
      if (ofPrefix wanted maxEdits fuzzyMinLength similarity).fuzzy then some 1 else none := by
  generalize made : ofPrefix wanted maxEdits fuzzyMinLength similarity = matcher
  have lowered : matcher.wanted = Text.lowerChars (Text.trimChars wanted.toList) :=
    made ▸ rfl
  have allowed : matcher.fuzzy = true → 1 ≤ matcher.maxEdits := by
    rw [← made]
    intro fuzzy
    exact of_decide_eq_true (Bool.and_eq_true_iff.mp fuzzy).1
  obtain ⟨front, behind, after, ofBeginning, ofText⟩ := Text.lowerChars_cut cut
  rw [← lowered] at ofBeginning
  rw [← begins] at ofText
  have differ : 'ς' ≠ 'σ' := by decide
  unfold edits?
  rw [ofBeginning, ofText]
  split
  · rename_i fuzzy
    simp only [prefixDistance_substitution differ, if_pos (allowed fuzzy)]
  · exact if_neg fun begins => not_prefix_of_ne differ (List.isPrefixOf_iff_prefix.mp begins)

end PrefixMatcher

theorem Similarity.scoreOfRank_zero : Similarity.scoreOfRank 0 = 1 := by decide

namespace Store

variable {store : Store} {now : Instant} {wanted group text : String} {size : Option Nat}
  {entry : Entry} {rest : List Char}

theorem length_candidates_le (matcher : PrefixMatcher) :
    (store.candidates now matcher group).length ≤ (store.group (Text.trim group)).size :=
  List.length_filterMap_le _ _

/-- With room for the whole group, a lookup gives the live texts that the prefix matches, and no
others. -/
theorem exists_mem_suggest_iff (solid : Text.isBlank wanted = false)
    (room : (store.group (Text.trim group)).size ≤ store.settings.effectiveSize size) :
    (∃ hit ∈ store.suggest now wanted group size, hit.text = text) ↔
      (∃ entry, store.live? now (Text.trim group) text = some entry) ∧
        (store.matcher wanted).edits? text ≠ none := by
  have few : (store.ranked now (store.matcher wanted) [group]).length ≤
      store.settings.effectiveSize size := by
    refine (leaders_sublist _ _).length_le.trans ?_
    rw [(sorted_perm _).length_eq, found, List.flatMap_singleton]
    exact (length_candidates_le _).trans room
  have inRanking : (∃ hit ∈ store.suggest now wanted group size, hit.text = text) ↔
      ∃ candidate ∈ store.ranked now (store.matcher wanted) [group], candidate.hit.text = text := by
    simp [suggest, suggestIn_of_room solid few]
  rw [inRanking, exists_mem_ranked_iff, exists_mem_found_iff, Option.isSome_iff_ne_none]
  simp [Option.isSome_iff_exists]

/-- A live text is found by its own beginnings, without edits and with the best score, in a lookup
with room for its group. Only a beginning that cuts a word behind a capital sigma does not find its
text where no edits are allowed, and is one edit away from it where they are. -/
theorem suggest_own_beginning (live : store.live? now (Text.trim group) text = some entry)
    (solid : Text.isBlank wanted = false)
    (begins : text.toList = Text.trimChars wanted.toList ++ rest)
    (room : (store.group (Text.trim group)).size ≤ store.settings.effectiveSize size) :
    (¬ Text.CutsWord (Text.trimChars wanted.toList) rest →
        (store.matcher wanted).edits? text = some 0 ∧
          (store.matcher wanted).score? text = some 1 ∧
          ∃ hit ∈ store.suggest now wanted group size, hit.text = text) ∧
      (Text.CutsWord (Text.trimChars wanted.toList) rest →
        (store.matcher wanted).edits? text =
            (if (store.matcher wanted).fuzzy then some 1 else none) ∧
          ((∃ hit ∈ store.suggest now wanted group size, hit.text = text) ↔
            (store.matcher wanted).fuzzy = true)) := by
  rw [exists_mem_suggest_iff solid room]
  refine ⟨fun whole => ?_, fun cut => ?_⟩
  · have unedited : (store.matcher wanted).edits? text = some 0 := by
      refine PrefixMatcher.edits?_eq_zero_iff.mpr ?_
      rw [begins]
      exact Text.lowerChars_prefix whole
    refine ⟨unedited, ?_, ⟨entry, live⟩, by simp [unedited]⟩
    have best : (store.matcher wanted).similarity.rank 0 = 0 := by
      cases (store.matcher wanted).similarity <;> rfl
    rw [PrefixMatcher.score?, PrefixMatcher.rank?, unedited, Option.map_some, Option.map_some, best,
      Similarity.scoreOfRank_zero]
  · have edited : (store.matcher wanted).edits? text =
        if (store.matcher wanted).fuzzy then some 1 else none :=
      PrefixMatcher.edits?_of_cut begins cut
    refine ⟨edited, ?_⟩
    rw [edited]
    cases (store.matcher wanted).fuzzy <;> simp [live]

/-- A store with one text in one group. -/
def single (settings : Settings) (now : Instant) (text group : String) : Store where
  settings := settings
  groups := Directory.empty.insert group (Directory.empty.insert text ⟨now, 0⟩)
  indexed := 1
  gauge := 1

/-- The word before the blank ends in a final sigma in the text and in its beginning. -/
theorem odos_before_blank_found :
    let store := single { maxEdits := 0 } { second := 0 } "ΟΔΟΣ Α" "vpro"
    (store.matcher " ΟΔΟΣ ").score? "ΟΔΟΣ Α" = some 1 ∧
      ∃ hit ∈ store.suggest { second := 0 } " ΟΔΟΣ " "vpro" none, hit.text = "ΟΔΟΣ Α" := by
  intro store
  have live : store.live? { second := 0 } (Text.trim "vpro") "ΟΔΟΣ Α" = some ⟨{ second := 0 }, 0⟩ := by decide +kernel
  have begins : "ΟΔΟΣ Α".toList = Text.trimChars " ΟΔΟΣ ".toList ++ [' ', 'Α'] := by decide +kernel
  have whole : ¬ Text.CutsWord (Text.trimChars " ΟΔΟΣ ".toList) [' ', 'Α'] :=
    fun cut => absurd cut.goesOn (by decide +kernel)
  exact ((suggest_own_beginning live (by decide) begins (by decide +kernel)).1 whole).2

/-- The settings are sound, the text is indexed, and the prefix is the beginning of the text. Its
sigma is the last letter of the prefix, but not of the text. Where edits are allowed, it counts as
one. -/
theorem odos_within_word_not_found :
    let settings : Settings := { maxEdits := 0 }
    let store := single settings { second := 0 } "ΟΔΟΣΑ" "vpro"
    settings.check = .ok () ∧
      Store.index { settings } { second := 0 } "ΟΔΟΣΑ" "vpro" = .ok store ∧
      store.live? { second := 0 } "vpro" "ΟΔΟΣΑ" = some ⟨{ second := 0 }, 0⟩ ∧
      Text.trimChars "ΟΔΟΣ".toList <+: "ΟΔΟΣΑ".toList ∧
      (store.group "vpro").size ≤ store.settings.effectiveSize none ∧
      (store.matcher "ΟΔΟΣ").edits? "ΟΔΟΣΑ" = none ∧
      store.suggest { second := 0 } "ΟΔΟΣ" "vpro" none = [] ∧
      (PrefixMatcher.ofPrefix "ΟΔΟΣ" 2 3 .uniform).edits? "ΟΔΟΣΑ" = some 1 := by
  refine ⟨rfl, rfl, ?_, ?_, ?_, ?_, ?_, ?_⟩ <;> decide +kernel

end Store

end Retrieval.Suggestion
