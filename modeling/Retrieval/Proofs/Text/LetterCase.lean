import Retrieval.Proofs.Text.CaseRuns
import Retrieval.Proofs.Text.LowerCase
import Retrieval.Proofs.Text.Words

/-!
The words of a text in lower case. Words are split off before they are lowered, so a text and its
lower case have the same words only if lowering leaves its runs of letters and numbers as they are
and a sigma ends its run where it ends its word.
-/

namespace Retrieval.Text

variable {before chars others : List Char} {char lowered : Char} {text : String}

/-- The lower case of a text of which each run of letters and numbers is lowered by itself. -/
def lowerByRuns (before : List Char) : List Char → List Char
  | [] => []
  | char :: rest =>
      (if char = 'Σ' then
        [if endsWord (before.takeWhile isAlphanumeric) (rest.takeWhile isAlphanumeric) then 'ς'
          else 'σ']
      else lowerChar char) ++ lowerByRuns (char :: before) rest

/-- A text that is lowered run by run like as a whole, without a character that breaks its run. -/
structure LowersByRuns (chars : List Char) : Prop where
  undotted : 'İ' ∉ chars
  sigmas : ∀ front rest, chars = front ++ 'Σ' :: rest →
    endsWord front.reverse rest =
      endsWord (front.reverse.takeWhile isAlphanumeric) (rest.takeWhile isAlphanumeric)

theorem lowers_sigma (final : Bool) : Lowers 'Σ' (if final then 'ς' else 'σ') := by
  cases final
  · exact ⟨by decide +kernel, by decide +kernel⟩
  · exact ⟨by decide +kernel, by decide +kernel⟩

/-- Whichever way sigmas are lowered, a character becomes one of its kind. -/
theorem exists_lowers_of_final (undotted : char ≠ 'İ') (final : Bool) : ∃ lowered,
    (if char = 'Σ' then [if final then 'ς' else 'σ'] else lowerChar char) = [lowered] ∧
      Lowers char lowered := by
  by_cases sigma : char = 'Σ'
  · obtain rfl := sigma
    exact ⟨_, if_pos rfl, lowers_sigma final⟩
  · rw [if_neg sigma]
    exact exists_lowers undotted

theorem splitAtEach_cons_of_break {breaks : α → Bool} {item : α} {rest : List α}
    (isBreak : breaks item = true) :
    splitAtEach breaks (item :: rest) = [] :: splitAtEach breaks rest := by
  rw [splitAtEach, if_pos isBreak]

theorem splitAtEach_cons_of_cons {breaks : α → Bool} {item : α} {rest part : List α}
    {parts : List (List α)} (goesOn : breaks item = false)
    (split : splitAtEach breaks rest = part :: parts) :
    splitAtEach breaks (item :: rest) = (item :: part) :: parts := by
  rw [splitAtEach, goesOn, split]
  rfl

def isBreak (char : Char) : Bool :=
  !isAlphanumeric char

theorem wordRuns_eq_filter (chars : List Char) :
    wordRuns chars = (splitAtEach isBreak chars).filter fun run => !run.isEmpty :=
  rfl

/-- The parts of a text that is lowered by runs are the parts of the text, each of them lowered. Only
the first depends on what is before it. -/
theorem splitAtEach_lowerByRuns (undotted : 'İ' ∉ chars) : ∃ parts,
    splitAtEach isBreak chars = chars.takeWhile isAlphanumeric :: parts ∧
      splitAtEach isBreak (lowerByRuns before chars) =
        lowerFrom (before.takeWhile isAlphanumeric) (chars.takeWhile isAlphanumeric) ::
          parts.map lowerChars := by
  induction chars generalizing before with
  | nil => exact ⟨[], rfl, rfl⟩
  | cons char rest induction =>
      rw [List.mem_cons, not_or] at undotted
      obtain ⟨parts, ofRest, ofLowered⟩ := @induction (char :: before) undotted.2
      obtain ⟨lowered, here, lowers⟩ := exists_lowers_of_final (Ne.symm undotted.1)
        (endsWord (before.takeWhile isAlphanumeric) (rest.takeWhile isAlphanumeric))
      rw [lowerByRuns, here, List.singleton_append]
      cases kind : isAlphanumeric char with
      | false =>
          refine ⟨rest.takeWhile isAlphanumeric :: parts, ?_, ?_⟩
          · rw [splitAtEach_cons_of_break (by simp [isBreak, kind]), ofRest]
            simp [kind]
          · rw [splitAtEach_cons_of_break (by simp [isBreak, lowers.kind, kind]), ofLowered]
            simp [kind, lowerFrom, lowerChars]
      | true =>
          refine ⟨parts, ?_, ?_⟩
          · rw [splitAtEach_cons_of_cons (by simp [isBreak, kind]) ofRest]
            simp [kind]
          · rw [splitAtEach_cons_of_cons (by simp [isBreak, lowers.kind, kind]) ofLowered]
            simp [kind, lowerFrom, here]

theorem lowerChar_ne_nil (char : Char) : lowerChar char ≠ [] := by
  unfold lowerChar
  split
  · simp
  · split
    · simp
    · split <;> simp

theorem isEmpty_lowerChars (run : List Char) : (lowerChars run).isEmpty = run.isEmpty := by
  cases run with
  | nil => rfl
  | cons char rest =>
      rw [lowerChars, lowerFrom]
      split
      · simp
      · simp [lowerChar_ne_nil]

/-- The words of a text are the runs of the text that is lowered by runs. -/
theorem wordRuns_lowerByRuns (undotted : 'İ' ∉ chars) :
    wordRuns (lowerByRuns [] chars) = (wordRuns chars).map lowerChars := by
  obtain ⟨parts, ofText, ofLowered⟩ := @splitAtEach_lowerByRuns [] chars undotted
  have split : splitAtEach isBreak (lowerByRuns [] chars) =
      (splitAtEach isBreak chars).map lowerChars := by
    rw [ofText, ofLowered]
    rfl
  have nonEmpty : (fun run => !run.isEmpty) ∘ lowerChars = fun run => !run.isEmpty := by
    funext run
    rw [Function.comp_apply, isEmpty_lowerChars]
  rw [wordRuns_eq_filter, split, List.filter_map, nonEmpty, wordRuns_eq_filter]

/-- Together, the runs of a text are its letters and numbers. -/
theorem flatten_wordRuns (chars : List Char) :
    (wordRuns chars).flatten = chars.filter isAlphanumeric := by
  have parts : (splitAtEach isBreak chars).flatten = chars.filter isAlphanumeric := by
    induction chars with
    | nil => rfl
    | cons char rest induction =>
        cases kind : isAlphanumeric char with
        | false =>
            rw [splitAtEach_cons_of_break (by simp [isBreak, kind])]
            simp [kind, induction]
        | true =>
            obtain ⟨part, parts, split⟩ :=
              List.exists_cons_of_ne_nil (splitAtEach_ne_nil isBreak rest)
            rw [splitAtEach_cons_of_cons (by simp [isBreak, kind]) split]
            rw [split] at induction
            simp [kind, ← induction]
  rw [wordRuns_eq_filter, List.flatten_filter_not_isEmpty, parts]

theorem mem_wordRuns {run : List Char} (member : run ∈ wordRuns chars) (within : char ∈ run) :
    char ∈ chars ∧ isAlphanumeric char = true := by
  have together := List.mem_flatten_of_mem member within
  rw [flatten_wordRuns] at together
  exact List.mem_filter.mp together

theorem splitAtEach_of_unbroken {breaks : α → Bool} {items : List α}
    (unbroken : ∀ item ∈ items, breaks item = false) : splitAtEach breaks items = [items] := by
  induction items with
  | nil => rfl
  | cons item rest induction =>
      obtain ⟨here, later⟩ := List.forall_mem_cons.mp unbroken
      exact splitAtEach_cons_of_cons here (induction later)

/-- Each word of a text is the only word of another. -/
theorem exists_words_eq_singleton {word : List Char} (member : word ∈ words text) :
    ∃ alone, words alone = [word] := by
  obtain ⟨run, listed, rfl⟩ := List.mem_map.mp member
  have single : wordRuns run = [run] := by
    have unbroken : ∀ char ∈ run, isBreak char = false := by
      intro char within
      rw [isBreak, (mem_wordRuns listed within).2]
      rfl
    have nonEmpty := (List.mem_filter.mp listed).2
    rw [wordRuns_eq_filter, splitAtEach_of_unbroken unbroken]
    exact List.filter_eq_self.mpr (List.forall_mem_singleton.mpr nonEmpty)
  refine ⟨String.ofList run, ?_⟩
  rw [words, String.toList_ofList, single, List.map_singleton]

/-- What has been lowered is its own lower case. -/
theorem lowerChar_of_mem_lowerFrom (member : lowered ∈ lowerFrom before chars) :
    lowerChar lowered = [lowered] := by
  induction chars generalizing before with
  | nil => contradiction
  | cons char rest induction =>
      rw [lowerFrom, List.mem_append] at member
      cases member with
      | inr later => exact induction later
      | inl here =>
          by_cases dotted : char = 'İ'
          · have two : lowerChar 'İ' = ['i', '\u0307'] := by decide +kernel
            rw [dotted, if_neg (by decide), two, List.mem_pair] at here
            rcases here with rfl | rfl
            · decide +kernel
            · decide +kernel
          · obtain ⟨found, same, lowers⟩ := exists_lowers_of_final dotted (endsWord before rest)
            rw [same, List.mem_singleton] at here
            rw [here]
            exact lowers.fixed

theorem lowerFrom_eq_self (fixed : ∀ char ∈ chars, lowerChar char = [char]) :
    lowerFrom before chars = chars := by
  induction chars generalizing before with
  | nil => rfl
  | cons char rest induction =>
      obtain ⟨here, later⟩ := List.forall_mem_cons.mp fixed
      have noSigma : char ≠ 'Σ' := by
        intro sigma
        rw [sigma] at here
        exact absurd here (by decide +kernel)
      rw [lowerFrom, if_neg noSigma, here, induction later]
      rfl

/-- The words of a lowered text are its runs. -/
theorem words_lower (text : String) : words (lower text) = wordRuns (lowerChars text.toList) := by
  have fixed : ∀ run ∈ wordRuns (lowerChars text.toList), lowerChars run = run := by
    intro run member
    apply lowerFrom_eq_self
    intro char within
    exact lowerChar_of_mem_lowerFrom (mem_wordRuns member within).1
  rw [words, lower, String.toList_ofList, List.map_congr_left fixed, List.map_id']

theorem mem_lowerFrom (member : char ∈ chars) (noSigma : char ≠ 'Σ')
    (within : lowered ∈ lowerChar char) : lowered ∈ lowerFrom before chars := by
  induction chars generalizing before with
  | nil => contradiction
  | cons first rest induction =>
      rw [lowerFrom, List.mem_append]
      cases List.mem_cons.mp member with
      | inl here =>
          rw [← here, if_neg noSigma]
          exact .inl within
      | inr later => exact .inr (induction later)

/-- The dot of a capital I with a dot above stays in its word, which no word of a lowered text has
one in. -/
theorem exists_dotted_word (dotted : 'İ' ∈ text.toList) :
    ∃ word ∈ words text, word ∉ words (lower text) := by
  have letter : 'İ' ∈ (wordRuns text.toList).flatten := by
    rw [flatten_wordRuns]
    exact List.mem_filter.mpr ⟨dotted, by decide +kernel⟩
  obtain ⟨run, member, within⟩ := List.mem_flatten.mp letter
  refine ⟨lowerChars run, List.mem_map_of_mem member, ?_⟩
  intro found
  rw [words_lower] at found
  have dot : '\u0307' ∈ lowerChars run :=
    mem_lowerFrom within (by decide) (by decide +kernel)
  exact absurd (mem_wordRuns found dot).2 (by decide +kernel)

theorem sigma_forms_inj : ∀ final inRun : Bool,
    (if final then 'ς' else 'σ') = (if inRun then 'ς' else 'σ') ↔ final = inRun := by
  decide

/-- A sigma of a text is its first character or one of the others. -/
theorem forall_sigma_cons {rest : List Char} {holds : List Char → List Char → Prop} :
    (∀ front behind, char :: rest = front ++ 'Σ' :: behind → holds front behind) ↔
      (char = 'Σ' → holds [] rest) ∧
        ∀ front behind, rest = front ++ 'Σ' :: behind → holds (char :: front) behind := by
  constructor
  · intro all
    refine ⟨fun sigma => all [] rest (by rw [sigma, List.nil_append]), ?_⟩
    intro front behind split
    exact all (char :: front) behind (by rw [split, List.cons_append])
  · intro parts front behind split
    cases front with
    | nil =>
        obtain ⟨rfl, rfl⟩ := List.cons.inj split
        exact parts.1 rfl
    | cons first front =>
        obtain ⟨rfl, later⟩ := List.cons.inj split
        exact parts.2 front behind later

/-- A text is lowered as a whole like run by run exactly if its sigmas are. -/
theorem lowerFrom_eq_lowerByRuns_iff : lowerFrom before chars = lowerByRuns before chars ↔
    ∀ front rest, chars = front ++ 'Σ' :: rest →
      endsWord (front.reverse ++ before) rest =
        endsWord ((front.reverse ++ before).takeWhile isAlphanumeric)
          (rest.takeWhile isAlphanumeric) := by
  induction chars generalizing before with
  | nil => simp [lowerFrom, lowerByRuns]
  | cons char rest induction =>
      have later := @induction (char :: before)
      rw [forall_sigma_cons, lowerFrom, lowerByRuns]
      simp only [List.reverse_cons, List.append_assoc, List.singleton_append, ← later]
      by_cases sigma : char = 'Σ'
      · simp only [sigma, if_true, List.singleton_append, List.cons.injEq, sigma_forms_inj,
          forall_const, List.reverse_nil, List.nil_append]
      · simp only [sigma, if_false, List.append_cancel_left_eq, false_implies, true_and]

/-- Two ways to lower the sigmas of a text that give the same letters and numbers are the same. -/
theorem lowerFrom_eq_lowerByRuns_of_filter_eq
    (same : (lowerFrom before chars).filter isAlphanumeric =
      (lowerByRuns before chars).filter isAlphanumeric) :
    lowerFrom before chars = lowerByRuns before chars := by
  induction chars generalizing before with
  | nil => rfl
  | cons char rest induction =>
      rw [lowerFrom, lowerByRuns] at same ⊢
      by_cases sigma : char = 'Σ'
      · have letters : ∀ final : Bool,
            isAlphanumeric (if final then 'ς' else 'σ') = true := by decide +kernel
        simp only [sigma, if_true, List.singleton_append, List.filter_cons, letters,
          List.cons.injEq] at same ⊢
        exact ⟨same.1, induction same.2⟩
      · simp only [sigma, if_false, List.filter_append, List.append_cancel_left_eq] at same ⊢
        exact induction same

/-- A text and its lower case have the same words exactly if the text has no capital I with a dot
above and each of its sigmas ends its run where it ends its word. -/
theorem words_lower_eq_iff : words (lower text) = words text ↔ LowersByRuns text.toList := by
  rw [words_lower, lowerChars]
  constructor
  · intro same
    have undotted : 'İ' ∉ text.toList := by
      intro dotted
      obtain ⟨word, member, absent⟩ := exists_dotted_word dotted
      rw [words_lower, lowerChars, same] at absent
      exact absent member
    refine ⟨undotted, ?_⟩
    rw [words, ← wordRuns_lowerByRuns undotted] at same
    have letters := congrArg List.flatten same
    rw [flatten_wordRuns, flatten_wordRuns] at letters
    simpa using lowerFrom_eq_lowerByRuns_iff.mp
      (lowerFrom_eq_lowerByRuns_of_filter_eq letters)
  · intro byRuns
    rw [words, ← wordRuns_lowerByRuns byRuns.undotted]
    congr 1
    exact lowerFrom_eq_lowerByRuns_iff.mpr (by simpa using byRuns.sigmas)

end Retrieval.Text
