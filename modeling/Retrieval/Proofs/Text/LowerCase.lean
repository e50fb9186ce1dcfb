import Retrieval.Text.LowerCase

namespace Retrieval.Text

theorem isCaseIgnorable_sigma : isCaseIgnorable 'Σ' = false := by decide +kernel

theorem isCased_sigma : isCased 'Σ' = true := by decide +kernel

/-- What is ignored for casing is passed over, up to the first character that is not. -/
theorem meetsCased_append (chars rest : List Char) :
    meetsCased (chars ++ rest) =
      if chars.all isCaseIgnorable then meetsCased rest else meetsCased chars := by
  induction chars with
  | nil => rfl
  | cons char chars induction =>
      cases ignored : isCaseIgnorable char with
      | true =>
          simp only [meetsCased, List.cons_append, List.dropWhile_cons, ignored, if_true,
            List.all_cons, Bool.true_and] at induction ⊢
          exact induction
      | false => simp [meetsCased, ignored]

theorem meetsCased_cons_sigma (rest : List Char) : meetsCased ('Σ' :: rest) = true := by
  simp [meetsCased, isCaseIgnorable_sigma, isCased_sigma]

theorem meetsCased_of_ignored {chars : List Char} (ignored : chars.all isCaseIgnorable = true) :
    meetsCased chars = false := by
  have alone := meetsCased_append chars []
  rw [List.append_nil, if_pos ignored] at alone
  exact alone

/-- Two continuations in which each sigma before them ends its word in both or in neither do not
show in the lower case before them. -/
theorem lowerFrom_append_alike {before chars rest after : List Char}
    (alike : ∀ front behind, chars = front ++ 'Σ' :: behind →
      endsWord (front.reverse ++ before) (behind ++ rest) =
        endsWord (front.reverse ++ before) (behind ++ after)) :
    ∃ lowered,
      lowerFrom before (chars ++ rest) = lowered ++ lowerFrom (chars.reverse ++ before) rest ∧
      lowerFrom before (chars ++ after) = lowered ++ lowerFrom (chars.reverse ++ before) after := by
  induction chars generalizing before with
  | nil => exact ⟨[], rfl, rfl⟩
  | cons char chars induction =>
      obtain ⟨lowered, ofRest, ofAfter⟩ := @induction (char :: before) (by
        rintro front behind rfl
        simpa using alike (char :: front) behind rfl)
      have here : (if char = 'Σ' then [if endsWord before (chars ++ rest) then 'ς' else 'σ']
          else lowerChar char) =
          if char = 'Σ' then [if endsWord before (chars ++ after) then 'ς' else 'σ']
          else lowerChar char := by
        by_cases sigma : char = 'Σ'
        · have same := alike [] chars (by rw [sigma]; rfl)
          rw [List.reverse_nil, List.nil_append] at same
          rw [same]
        · rw [if_neg sigma, if_neg sigma]
      refine ⟨(if char = 'Σ' then [if endsWord before (chars ++ after) then 'ς' else 'σ']
        else lowerChar char) ++ lowered, ?_, ?_⟩
      · rw [List.cons_append, lowerFrom, ofRest, here]
        simp
      · rw [List.cons_append, lowerFrom, ofAfter]
        simp

/-- The beginning ends in a sigma, apart from what is ignored for casing; a word ends there if the
text does, and goes on if the rest follows. -/
def CutsWord (beginning rest : List Char) : Prop :=
  ∃ front ignored, beginning = front ++ 'Σ' :: ignored ∧ ignored.all isCaseIgnorable = true ∧
    meetsCased front.reverse = true ∧ meetsCased rest = true

variable {beginning rest : List Char}

theorem CutsWord.goesOn (cut : CutsWord beginning rest) : meetsCased rest = true := by
  obtain ⟨_, _, _, _, _, goesOn⟩ := cut
  exact goesOn

/-- A beginning that cuts no word is lowered as it is in the text. -/
theorem lowerChars_prefix (whole : ¬ CutsWord beginning rest) :
    lowerChars beginning <+: lowerChars (beginning ++ rest) := by
  have alike : ∀ front behind, beginning = front ++ 'Σ' :: behind →
      endsWord (front.reverse ++ []) (behind ++ rest) =
        endsWord (front.reverse ++ []) (behind ++ []) := by
    rintro front behind rfl
    rw [List.append_nil, List.append_nil, endsWord, endsWord, meetsCased_append]
    cases ignored : behind.all isCaseIgnorable with
    | false => rfl
    | true =>
        rw [if_pos rfl, meetsCased_of_ignored ignored]
        cases started : meetsCased front.reverse with
        | false => rfl
        | true =>
            cases goesOn : meetsCased rest with
            | false => rfl
            | true => exact absurd ⟨front, behind, rfl, ignored, started, goesOn⟩ whole
  obtain ⟨lowered, ofText, ofBeginning⟩ := lowerFrom_append_alike alike
  rw [List.append_nil, lowerFrom, List.append_nil] at ofBeginning
  rw [lowerChars, lowerChars, ofBeginning, ofText]
  exact List.prefix_append _ _

/-- A beginning that cuts a word has a final sigma where the text has another. -/
theorem lowerChars_cut (cut : CutsWord beginning rest) : ∃ front behind after,
    lowerChars beginning = front ++ 'ς' :: behind ∧
      lowerChars (beginning ++ rest) = front ++ 'σ' :: behind ++ after := by
  obtain ⟨front, ignored, rfl, allIgnored, started, goesOn⟩ := cut
  -- In front, a word does not end at a sigma before another one, whatever comes behind that.
  obtain ⟨lowered, ofBeginning, ofText⟩ : ∃ lowered,
      lowerFrom [] (front ++ 'Σ' :: ignored) = lowered ++ lowerFrom front.reverse ('Σ' :: ignored) ∧
      lowerFrom [] (front ++ 'Σ' :: (ignored ++ rest)) =
        lowered ++ lowerFrom front.reverse ('Σ' :: (ignored ++ rest)) := by
    have alike := @lowerFrom_append_alike [] front ('Σ' :: ignored) ('Σ' :: (ignored ++ rest)) (by
      intro start behind _
      simp only [endsWord, meetsCased_append, meetsCased_cons_sigma])
    rwa [List.append_nil] at alike
  -- What is ignored holds no sigma, so it is lowered character by character.
  obtain ⟨behind, ofIgnored, ofRest⟩ := @lowerFrom_append_alike ('Σ' :: front.reverse) ignored []
    rest (by
      rintro start behind rfl
      simp [isCaseIgnorable_sigma] at allIgnored)
  have final : endsWord front.reverse ignored = true := by
    rw [endsWord, started, meetsCased_of_ignored allIgnored]
    rfl
  have inside : endsWord front.reverse (ignored ++ rest) = false := by
    rw [endsWord, started, meetsCased_append, if_pos allIgnored, goesOn]
    rfl
  rw [List.append_nil, lowerFrom, List.append_nil] at ofIgnored
  refine ⟨lowered, behind, lowerFrom (ignored.reverse ++ 'Σ' :: front.reverse) rest, ?_, ?_⟩
  · rw [lowerChars, ofBeginning, lowerFrom, if_pos rfl, final, if_pos rfl, ofIgnored]
    rfl
  · rw [lowerChars, List.append_assoc, List.cons_append, ofText, lowerFrom, if_pos rfl, inside,
      ofRest]
    simp

end Retrieval.Text
