import Retrieval.Text.Blank
import Retrieval.Text.Words

namespace Retrieval.Text

theorem splitAtEach_ne_nil (breaks : α → Bool) (items : List α) :
    splitAtEach breaks items ≠ [] := by
  cases items with
  | nil => simp [splitAtEach]
  | cons item rest =>
      unfold splitAtEach
      split
      · simp
      · split <;> simp

theorem splitAtEach_append_cons {breaks : α → Bool} (front back : List α) {item : α}
    (isBreak : breaks item = true) :
    splitAtEach breaks (front ++ item :: back) =
      splitAtEach breaks front ++ splitAtEach breaks back := by
  induction front with
  | nil => simp [splitAtEach, isBreak]
  | cons first rest induction =>
      simp only [List.cons_append, splitAtEach, induction]
      by_cases here : breaks first = true
      · simp [here]
      · cases parts : splitAtEach breaks rest with
        | nil => exact absurd parts (splitAtEach_ne_nil breaks rest)
        | cons part others => simp [here]

/-- The code points of white space, one by one. -/
def spaceCodes : List Nat :=
  [9, 10, 11, 12, 13, 0x20, 0x85, 0xA0, 0x1680, 0x2000, 0x2001, 0x2002, 0x2003, 0x2004, 0x2005,
    0x2006, 0x2007, 0x2008, 0x2009, 0x200A, 0x2028, 0x2029, 0x202F, 0x205F, 0x3000]

theorem mem_spaceCodes_of_isSpace {char : Char} (space : isSpace char = true) :
    char.toNat ∈ spaceCodes := by
  simp only [isSpace, Bool.or_eq_true, Bool.and_eq_true, decide_eq_true_eq, beq_iff_eq] at space
  simp only [spaceCodes, List.mem_cons, List.not_mem_nil, or_false]
  omega

/-- No white space is a letter or a number. -/
theorem isAlphanumeric_of_isSpace {char : Char} (space : isSpace char = true) :
    isAlphanumeric char = false := by
  have none : ∀ code ∈ spaceCodes, isAlphanumeric (Char.ofNat code) = false := by
    decide +kernel
  simpa only [Char.ofNat_toNat] using none char.toNat (mem_spaceCodes_of_isSpace space)

theorem wordRuns_append_cons (front back : List Char) {char : Char} (space : isSpace char = true) :
    wordRuns (front ++ char :: back) = wordRuns front ++ wordRuns back := by
  unfold wordRuns
  rw [splitAtEach_append_cons front back (by simp [isAlphanumeric_of_isSpace space]),
    List.filter_append]

@[simp] theorem wordRuns_nil : wordRuns [] = [] := rfl

theorem wordRuns_trimStartChars (chars : List Char) :
    wordRuns (trimStartChars chars) = wordRuns chars := by
  induction chars with
  | nil => rfl
  | cons char rest induction =>
      by_cases space : isSpace char = true
      · have skipped : trimStartChars (char :: rest) = trimStartChars rest := by
          simp [trimStartChars, space]
        have split := wordRuns_append_cons [] rest space
        rw [skipped, induction]
        simpa using split.symm
      · simp [trimStartChars, space]

theorem wordRuns_trimEndChars (chars : List Char) :
    wordRuns (trimEndChars chars) = wordRuns chars := by
  -- The last character decides, so the induction takes characters off the end.
  generalize reversed : chars.reverse = backwards
  obtain rfl : chars = backwards.reverse := by simp [← reversed]
  clear reversed
  induction backwards with
  | nil => rfl
  | cons char rest induction =>
      by_cases space : isSpace char = true
      · have skipped : trimEndChars (char :: rest).reverse = trimEndChars rest.reverse := by
          simp [trimEndChars, space]
        have split := wordRuns_append_cons rest.reverse [] space
        rw [skipped, induction, List.reverse_cons, split]
        simp
      · simp [trimEndChars, space]

theorem words_trim (text : String) : words (trim text) = words text := by
  unfold words trim trimChars
  rw [String.toList_ofList, wordRuns_trimEndChars, wordRuns_trimStartChars]

end Retrieval.Text
