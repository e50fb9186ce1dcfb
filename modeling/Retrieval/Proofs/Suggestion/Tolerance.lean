import Retrieval.Proofs.Suggestion.Distance

namespace Retrieval.Suggestion.PrefixMatcher

variable {maxEdits looser fuzzyMinLength shorter : Nat}

theorem tolerance_ofPrefix (wanted : String) (maxEdits fuzzyMinLength : Nat)
    (similarity : Similarity) :
    (ofPrefix wanted maxEdits fuzzyMinLength similarity).tolerance =
      if fuzzyMinLength ≤ (Text.lowerChars (Text.trimChars wanted.toList)).length then maxEdits
      else 0 := by
  cases maxEdits with
  | zero => simp [tolerance, ofPrefix]
  | succ edits => simp [tolerance, ofPrefix]

/-- More edits, and fuzzy matching from shorter prefixes on, tolerate no less. -/
theorem tolerance_le (wanted : String) (similarity other : Similarity)
    (edits : maxEdits ≤ looser) (length : shorter ≤ fuzzyMinLength) :
    (ofPrefix wanted maxEdits fuzzyMinLength similarity).tolerance ≤
      (ofPrefix wanted looser shorter other).tolerance := by
  rw [tolerance_ofPrefix, tolerance_ofPrefix]
  split
  · rename_i long
    rw [if_pos (Nat.le_trans length long)]
    exact edits
  · exact Nat.zero_le _

/-- Looser settings keep every match with its number of edits. Whatever the settings are, no edits
are counted exactly for the texts that begin with the prefix, both in lower case. -/
theorem edits?_of_looser (wanted candidate : String) :
    (∀ {maxEdits looser fuzzyMinLength shorter : Nat} (similarity other : Similarity) {count : Nat},
        maxEdits ≤ looser → shorter ≤ fuzzyMinLength →
        (ofPrefix wanted maxEdits fuzzyMinLength similarity).edits? candidate = some count →
        (ofPrefix wanted looser shorter other).edits? candidate = some count) ∧
      ∀ (maxEdits fuzzyMinLength : Nat) (similarity : Similarity),
        (ofPrefix wanted maxEdits fuzzyMinLength similarity).edits? candidate = some 0 ↔
          Text.lowerChars (Text.trimChars wanted.toList) <+: Text.lowerChars candidate.toList := by
  constructor
  · intro maxEdits looser fuzzyMinLength shorter similarity other count edits length found
    obtain ⟨apart, within⟩ := edits?_eq_some_iff.mp found
    have tolerated := Nat.le_trans within (tolerance_le wanted similarity other edits length)
    exact edits?_eq_some_iff.mpr ⟨apart, tolerated⟩
  · intro maxEdits fuzzyMinLength similarity
    exact edits?_eq_zero_iff

/-- One edit is as good as it was where two are allowed, and only there two are. -/
theorem edits?_liba_looser :
    (ofPrefix " Liba" 1 4 .uniform).edits? "Lubach" = some 1 ∧
      (ofPrefix " Liba" 2 3 .editDistance).edits? "Lubach" = some 1 ∧
      (ofPrefix " Liba" 1 4 .uniform).edits? "cuba" = none ∧
      (ofPrefix " Liba" 2 3 .editDistance).edits? "cuba" = some 2 := by
  have found : (ofPrefix " Liba" 1 4 .uniform).edits? "Lubach" = some 1 := by decide
  have kept : (ofPrefix " Liba" 2 3 .editDistance).edits? "Lubach" = some 1 :=
    (edits?_of_looser " Liba" "Lubach").1 .uniform .editDistance (by decide) (by decide) found
  exact ⟨found, kept, by decide, by decide⟩

end Retrieval.Suggestion.PrefixMatcher
