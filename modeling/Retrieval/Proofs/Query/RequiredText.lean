import Retrieval.Proofs.Fragment.Layout
import Retrieval.Proofs.Fragment.Nesting
import Retrieval.Proofs.Query.BlankText
import Retrieval.Proofs.Query.Confinement

/-!
Required text of several words. It stands at the end of a rendering, in parentheses, as it was given
but for the white space at its ends. What it holds is read as syntax, so that the parentheses belong
together only if those in the text are balanced. Values of lists and filters are always balanced.
-/

namespace Retrieval

open Fragment (Balanced Encloses Nesting)

namespace Filter

variable {filter : Filter}

/-- Names of which no character opens or closes anything. -/
def NeutrallyNamed (filter : Filter) : Prop :=
  ∀ char ∈ filter.field.toList, char ∉ Nesting.marks

theorem balanced_trimEndChars_content (neutral : filter.NeutrallyNamed) :
    Balanced (Text.trimEndChars filter.content) := by
  cases filter with
  | present name =>
      apply Balanced.of_neutral
      intro char member
      exact neutral char (Text.mem_of_mem_trimEndChars member)
  | equals name value =>
      have compares : (equals name value).value? ≠ none := Option.some_ne_none value
      rw [trimEndChars_content compares]
      exact Fragment.balanced_quoteChars value.toList
  | startsWith name value =>
      have compares : (startsWith name value).value? ≠ none := Option.some_ne_none value
      rw [trimEndChars_content compares]
      exact (Fragment.balanced_escapeChars value.toList).append (by decide)

theorem balanced_trimStartChars_label (neutral : filter.NeutrallyNamed) :
    Balanced (Text.trimStartChars filter.label.toList) := by
  rcases filter.present_or_compares with ⟨name, rfl⟩ | compares
  · have keyword : Balanced (Text.trimStartChars "_exists_".toList) := by decide
    exact keyword
  · rw [label_of_compares compares]
    apply Balanced.of_neutral
    intro char member
    exact neutral char (Text.mem_of_mem_trimStartChars member)

/-- Only the name of a clause can keep it from being balanced. -/
theorem balanced_trimmed (neutral : filter.NeutrallyNamed) : Balanced filter.trimmed := by
  have colon : Balanced [':'] := by decide
  rw [trimmed, chars_eq, Text.trimChars_append_cons _ _ (by decide)]
  exact (balanced_trimStartChars_label neutral).append
    (colon.append (balanced_trimEndChars_content neutral))

theorem balanced_allTrimmed {parts : List (List Filter)}
    (neutral : ∀ part ∈ parts, ∀ filter ∈ part, filter.NeutrallyNamed) :
    Balanced (allTrimmed parts) := by
  refine Balanced.enclosed (by decide) (List.forall_mem_map.mpr ?_)
  intro part member
  refine Balanced.enclosed (by decide) (List.forall_mem_map.mpr ?_)
  intro filter inPart
  exact balanced_trimmed (neutral part member filter inPart)

end Filter

namespace Criteria

variable {criteria : Criteria} {allowed : Nat}

theorem Malformed.of_textless (malformed : criteria.textless.Malformed allowed) :
    criteria.Malformed allowed := by
  cases malformed with
  | blankValue list member blank => exact .blankValue list member blank
  | overlongText given overlong => contradiction
  | tooManyValues list many => exact .tooManyValues list many
  | tooManyFilters many => exact .tooManyFilters many
  | faultyFilter member faulty => exact .faultyFilter member faulty

theorem isEmpty_eq_false_of_textless (asking : criteria.textless.isEmpty = false) :
    criteria.isEmpty = false := by
  by_contra empty
  obtain ⟨_, noLists, noFilters⟩ := isEmpty_iff.mp ((Bool.not_eq_false _).mp empty)
  have nothing : criteria.textless.isEmpty = true := isEmpty_iff.mpr ⟨rfl, noLists, noFilters⟩
  rw [nothing] at asking
  contradiction

end Criteria

namespace Compiler

variable {compiler : Compiler} {place : String} {criteria : Criteria} {phrase : Phrase}
  {context : Context} {path : Option String} {fragment : Fragment}

theorem isBlank_of_several (several : Text.hasSpace (Text.trim phrase.value) = true) :
    phrase.isBlank = false := by
  by_contra blank
  rw [Text.isBlank_iff_trim_eq.mp ((Bool.not_eq_false _).mp blank)] at several
  contradiction

/-- Several words that are required stand in parentheses. -/
theorem phraseText_of_several (required : phrase.mode = .must)
    (several : Text.hasSpace (Text.trim phrase.value) = true) :
    phraseText phrase = "+(" ++ Text.trim phrase.value ++ ")" := by
  have something := Fragment.trim_ne_empty (isBlank_of_several several)
  simp [phraseText, required, requiredText, several, something]

theorem trim_group (text : String) : Text.trim ("+(" ++ text ++ ")") = "+(" ++ text ++ ")" := by
  have chars : ("+(" ++ text ++ ")").toList = '+' :: '(' :: (text.toList ++ [')']) := by simp
  rw [Text.trim, Text.trimChars_eq_self, String.ofList_toList]
  · intro char first
    rw [chars] at first
    cases first
    decide
  · intro char last
    rw [chars, ← List.cons_append, ← List.cons_append, List.getLast?_concat] at last
    cases last
    decide

/-- A request that is admitted is admitted without its text as well. -/
theorem admission_textless
    (admitted : compiler.admission (some criteria) context path = .ok place) :
    compiler.admission (some criteria.textless) context path = .ok place := by
  have admissible := exists_admission_iff.mp ⟨place, admitted⟩
  have again : ∃ other, compiler.admission (some criteria.textless) context path = .ok other := by
    apply exists_admission_iff.mpr
    intro refused
    apply admissible
    cases refused with
    | missingPath missing => exact .missingPath missing
    | spaceInPath given space => exact .spaceInPath given space
    | criteria same asking malformed =>
        cases same
        exact .criteria rfl (Criteria.isEmpty_eq_false_of_textless asking) malformed.of_textless
    | context member faulty => exact .context member faulty
  obtain ⟨other, again⟩ := again
  have same := (fieldPath_of_admission admitted).symm.trans (fieldPath_of_admission again)
  rw [again, same]

/-- Free text behind the rest of a rendering, if there is any. -/
theorem text_rendering (given : criteria.phrase? = some phrase) :
    (compiler.rendering place criteria context).text =
      if (compiler.rendering place criteria.textless context).text = "" then
        Text.trim (phraseText phrase)
      else
        (compiler.rendering place criteria.textless context).text ++ " " ++
          Text.trim (phraseText phrase) := by
  have solid := isBlank_phraseText (phrase?_eq_some_iff.mp given).2
  have noText : criteria.textless.phrase? = none := rfl
  have sameLists : compiler.categories place criteria.textless = compiler.categories place criteria :=
    rfl
  have sameFilters : criteria.textless.filters = criteria.filters := rfl
  simp only [rendering, given, noText, sameLists, sameFilters,
    Fragment.ClosedGroup.freeText_of_solid solid, Fragment.ClosedGroup.build]

/-- What stands before the free text of a request: the rest of the request, if there is any, and a
blank. -/
def textBefore (compiler : Compiler) (criteria : Criteria) (context : Context)
    (path : Option String) : Except Fault String := do
  let rest ← compiler.compileText (some criteria.textless) context path
  return if criteria.textless.isEmpty && context.filters.isEmpty then "" else rest.text ++ " "

theorem toList_rendering_textless : (compiler.rendering place criteria.textless context).text.toList =
    Filter.allTrimmed (compiler.requirements place criteria context) :=
  toList_rendering rfl

theorem text_rendering_textless_eq_iff :
    (compiler.rendering place criteria.textless context).text = "" ↔
      criteria.textless.isEmpty = true ∧ context.filters = [] := by
  constructor
  · intro empty
    apply isBlank_rendering_iff.mp
    rw [Fragment.isBlank, empty]
    rfl
  · intro nothing
    have noText : criteria.textless.phrase? = none := rfl
    have none : compiler.requirements place criteria context = [] :=
      (requirements_eq_nil_iff noText).mpr nothing
    rw [← String.toList_inj, toList_rendering_textless, none]
    rfl

theorem textBefore_eq
    (admitted : compiler.admission (some criteria) context path = .ok place) :
    compiler.textBefore criteria context path =
      .ok (if (compiler.rendering place criteria.textless context).text = "" then ""
        else (compiler.rendering place criteria.textless context).text ++ " ") := by
  have rendered : compiler.compileText (some criteria.textless) context path =
      .ok (orEverything (compiler.rendering place criteria.textless context)) := by
    rw [compileText_eq, admission_textless admitted]
    rfl
  rw [textBefore, rendered]
  change Except.ok (if criteria.textless.isEmpty && context.filters.isEmpty then ""
    else (orEverything (compiler.rendering place criteria.textless context)).text ++ " ") = _
  by_cases empty : (compiler.rendering place criteria.textless context).text = ""
  · obtain ⟨noCriteria, noContext⟩ := text_rendering_textless_eq_iff.mp empty
    rw [if_pos empty, noCriteria, noContext]
    rfl
  · have something : ¬ (criteria.textless.isEmpty && context.filters.isEmpty) = true := by
      intro nothing
      rw [Bool.and_eq_true, List.isEmpty_iff] at nothing
      exact empty (text_rendering_textless_eq_iff.mpr nothing)
    have solid : ¬ (compiler.rendering place criteria.textless context).isBlank = true :=
      fun blank => empty (text_rendering_textless_eq_iff.mpr (isBlank_rendering_iff.mp blank))
    rw [if_neg empty, if_neg something, orEverything, if_neg solid]

/-- The text of a request with free text is the text before it, and it. -/
theorem compileText_of_phrase (given : criteria.phrase? = some phrase)
    (rendered : compiler.compileText (some criteria) context path = .ok fragment) :
    ∃ place before, compiler.admission (some criteria) context path = .ok place ∧
      compiler.textBefore criteria context path = .ok before ∧
      fragment.text = before ++ Text.trim (phraseText phrase) := by
  rw [compileText_eq] at rendered
  obtain ⟨place, admitted, rfl⟩ := map_eq_ok_iff.mp rendered
  have asking : ¬ (compiler.rendering place criteria context).isBlank = true := by
    intro blank
    have noText := (Criteria.isEmpty_iff.mp (isBlank_rendering_iff.mp blank).1).1
    rw [given] at noText
    contradiction
  refine ⟨place, _, admitted, textBefore_eq admitted, ?_⟩
  rw [Option.getD_some, orEverything, if_neg asking, text_rendering given]
  split
  · rw [String.empty_append]
  · rfl

/-- The blank before free text takes what a backslash at the end of a name would take from the
text. -/
theorem escaped_read_textBefore {before : String}
    (leads : compiler.textBefore criteria context path = .ok before) :
    (Nesting.read {} before.toList).escaped = false := by
  obtain ⟨rest, _, same⟩ := bind_eq_ok_iff.mp leads
  cases same
  split
  · rfl
  · rw [String.toList_append, Nesting.read_append]
    exact Nesting.escaped_next_of_neutral (by decide)

theorem balanced_textBefore {before : String}
    (admitted : compiler.admission (some criteria) context path = .ok place)
    (leads : compiler.textBefore criteria context path = .ok before)
    (neutral : ∀ part ∈ compiler.requirements place criteria context, ∀ filter ∈ part,
      filter.NeutrallyNamed) : Balanced before.toList := by
  rw [textBefore_eq admitted] at leads
  cases leads
  split
  · exact Balanced.nil
  · rw [String.toList_append, toList_rendering_textless]
    exact (Filter.balanced_allTrimmed neutral).append (by decide)

/-- Required text of several words stands in parentheses at the end, as it was given. The first of them
is closed by the last character, and by none before it, exactly if the text closes what it opens, no
more and no less, and no quotes are open before it. Only a name can leave quotes open. -/
theorem required_text_enclosed_iff
    (rendered : compiler.compileText (some criteria) context path = .ok fragment)
    (given : criteria.text = some phrase) (required : phrase.mode = .must)
    (several : Text.hasSpace (Text.trim phrase.value) = true) :
    ∃ place before, fieldPath path = .ok place ∧
      compiler.textBefore criteria context path = .ok before ∧
      fragment.text = before ++ "+(" ++ Text.trim phrase.value ++ ")" ∧
      (Encloses (before ++ "+").toList (Text.trim phrase.value).toList ↔
        (Nesting.read {} before.toList).quoted = false ∧
          Balanced (Text.trim phrase.value).toList) ∧
      ((∀ part ∈ compiler.requirements place criteria context, ∀ filter ∈ part,
          filter.NeutrallyNamed) → Balanced before.toList) := by
  obtain ⟨place, before, admitted, leads, text⟩ :=
    compileText_of_phrase (phrase?_eq_some_iff.mpr ⟨given, isBlank_of_several several⟩) rendered
  have plain := escaped_read_textBefore leads
  have signed : Nesting.read {} (before ++ "+").toList = Nesting.read {} before.toList := by
    rw [String.toList_append, Nesting.read_append]
    exact Nesting.next_of_neutral plain (by decide)
  refine ⟨place, before, fieldPath_of_admission admitted, leads, ?_, ?_,
    balanced_textBefore admitted leads⟩
  · rw [text, phraseText_of_several required several, trim_group, String.append_assoc,
      String.append_assoc, String.append_assoc]
  · rw [Fragment.encloses_iff, signed, Nesting.counting, plain]
    simp only [Bool.not_false, Bool.and_true, Bool.not_eq_true']

/-- Parentheses and quotes in pairs do no harm. -/
theorem balanced_text_enclosed :
    let criteria : Criteria :=
      { types := ["CLIP"], text := some ⟨" dag \"van :(\" (zondag) ", .must⟩ }
    compileText ⟨.media, {}⟩ (some criteria) {} (some "") =
        .ok ⟨"type:CLIP +(dag \"van :(\" (zondag))", .all⟩ ∧
      Encloses "type:CLIP +".toList "dag \"van :(\" (zondag)".toList := by
  intro criteria
  have rendered : compileText ⟨.media, {}⟩ (some criteria) {} (some "") =
      .ok ⟨"type:CLIP +(dag \"van :(\" (zondag))", .all⟩ := by decide +kernel
  have structured : textBefore ⟨.media, {}⟩ criteria {} (some "") = .ok "type:CLIP " := by
    decide +kernel
  obtain ⟨place, before, _, leads, _, enclosed, _⟩ :=
    required_text_enclosed_iff rendered rfl rfl (by decide +kernel)
  obtain rfl := Except.ok.inj (leads.symm.trans structured)
  exact ⟨rendered, enclosed.mpr ⟨by decide, by decide +kernel⟩⟩

/-- A parenthesis in the text closes the one that was opened for it, and what follows becomes an
alternative to everything that was asked for. -/
theorem closing_text_not_enclosed :
    compileText ⟨.media, {}⟩ (some { types := ["CLIP"], text := some ⟨"a) OR (b", .must⟩ }) {}
        (some "") = .ok ⟨"type:CLIP +(a) OR (b)", .all⟩ ∧
      ¬ Encloses "type:CLIP +".toList "a) OR (b".toList :=
  ⟨by decide +kernel, by decide⟩

end Compiler

end Retrieval
