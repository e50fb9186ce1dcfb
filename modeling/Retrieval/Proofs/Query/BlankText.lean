import Retrieval.Proofs.Query.Acceptance
import Retrieval.Proofs.Text.Blank

/-!
Blank text. A request with blank text is read like one without text in all that becomes of it. Only
the length of the text is checked before anyone sees that it is blank, and only where the criteria
ask for something else.
-/

namespace Retrieval

namespace Phrase

def spaces (count : Nat) (mode : MatchMode) : Phrase :=
  ⟨String.ofList (List.replicate count ' '), mode⟩

variable {count : Nat} {mode : MatchMode}

theorem isBlank_spaces : (spaces count mode).isBlank = true := by
  by_contra solid
  obtain ⟨char, member, other⟩ := Text.isBlank_eq_false_iff.mp (Bool.eq_false_iff.mpr solid)
  rw [spaces, String.toList_ofList] at member
  rw [List.eq_of_mem_replicate member] at other
  contradiction

theorem length_spaces : (spaces count mode).value.length = count := by
  rw [spaces, String.length_ofList, List.length_replicate]

end Phrase

namespace Criteria

variable {criteria : Criteria} {phrase : Phrase} {allowed : Nat}

/-- The criteria without any free text. -/
def textless (criteria : Criteria) : Criteria :=
  { criteria with text := none }

theorem phrase?_withText (blank : phrase.isBlank = true) :
    (criteria.withText phrase).phrase? = none := by
  simp [phrase?, withText, blank]

theorem isEmpty_withText (blank : phrase.isBlank = true) :
    (criteria.withText phrase).isEmpty = criteria.textless.isEmpty := by
  rw [isEmpty, phrase?_withText blank]
  rfl

/-- Text is refused for its length only where the values of the lists are sound. -/
theorem check_eq_overlongText_iff : criteria.check allowed = .error .overlongText ↔
    criteria.blankLists = [] ∧
      criteria.text.any (fun phrase => Phrase.lengthLimit < phrase.value.length) = true := by
  have faultless : ¬ (criteria.filters.forM fun filter => filter.check.mapError Fault.filter) =
      .error .overlongText := by
    rw [← mapError_forM, mapError_eq_error_iff]
    rintro ⟨_, _, same⟩
    cases same
  unfold check
  simp only [throw_bind, ite_throw_eq_error_iff, Bool.not_eq_true', Bool.not_eq_false,
    List.isEmpty_iff, reduceCtorEq, and_false, false_or, and_true]
  cases Category.choices.find? fun list => allowed < (criteria.values list).length with
  | some list => simp [throw, throwThe, MonadExceptOf.throw]
  | none =>
      simp only [ite_throw_eq_error_iff, reduceCtorEq, and_false, faultless, or_false]

/-- Of the text, only the length is checked, and it is checked after the values of the lists. -/
theorem check_withText :
    (criteria.withText phrase).check allowed =
      if criteria.blankLists = [] ∧ Phrase.lengthLimit < phrase.value.length then
        .error .overlongText
      else
        criteria.textless.check allowed := by
  have sameLists : (criteria.withText phrase).blankLists = criteria.blankLists ∧
      criteria.textless.blankLists = criteria.blankLists := ⟨rfl, rfl⟩
  unfold check
  rw [sameLists.1, sameLists.2]
  cases faulty : criteria.blankLists with
  | cons list lists => rfl
  | nil =>
      by_cases long : Phrase.lengthLimit < phrase.value.length
      · simp [withText, long]
        rfl
      · simp [withText, textless, long]
        rfl

end Criteria

namespace Compiler

variable {compiler : Compiler} {place : String} {criteria : Criteria} {phrase : Phrase}
  {context : Context} {query : BoolQuery} {path : Option String}

/-- Criteria that ask for something are asked after the path and before the context. -/
theorem admission_of_asking (asking : criteria.isEmpty = false) :
    compiler.admission (some criteria) context path = (do
      let place ← fieldPath path
      (criteria.check compiler.settings.maxConstraints).mapError .criteria
      checkFilters context.filters
      return place) := by
  unfold admission
  rw [checked_of_asking asking]
  cases criteria.check compiler.settings.maxConstraints <;> rfl

theorem fieldPath_ne_criteria {fault : Criteria.Fault} :
    fieldPath path ≠ .error (.criteria fault) := by
  unfold fieldPath
  split
  · exact nofun
  · split
    · exact nofun
    · split <;> exact nofun

theorem checkFilters_ne_criteria {filters : List Filter} {fault : Criteria.Fault} :
    checkFilters filters ≠ .error (.criteria fault) := by
  rw [checkFilters, ← mapError_forM, ne_eq, mapError_eq_error_iff]
  rintro ⟨_, _, same⟩
  cases same

theorem checked_eq_criteria_iff {fault : Criteria.Fault} :
    compiler.checked (some criteria) = .error (.criteria fault) ↔
      criteria.isEmpty = false ∧
        criteria.check compiler.settings.maxConstraints = .error fault := by
  cases asking : criteria.isEmpty with
  | true => simp [checked_of_isEmpty asking]
  | false => simp [checked_of_asking asking, map_eq_error_iff, mapError_eq_error_iff]

/-- A request is refused for its criteria if they ask for something and have that fault. -/
theorem admission_eq_criteria_iff {fault : Criteria.Fault} :
    compiler.admission (some criteria) context path = .error (.criteria fault) ↔
      (∃ place, fieldPath path = .ok place) ∧ criteria.isEmpty = false ∧
        criteria.check compiler.settings.maxConstraints = .error fault := by
  have returned (place : String) : (pure place : Except Fault String) ≠ .error (.criteria fault) :=
    nofun
  simp only [admission, bind_eq_error_iff, fieldPath_ne_criteria, checkFilters_ne_criteria,
    returned, and_false, exists_false, or_false, false_or, exists_and_right,
    checked_eq_criteria_iff]

/-- Requests that are refused for the length of their text, whatever it is: it is too long, and the
criteria ask for something besides it and have no blank value in a list. -/
structure Overlong (criteria : Criteria) (phrase : Phrase) (path : Option String) : Prop where
  usable : ∃ text, path = some text ∧ Text.hasSpace text = false
  asking : criteria.textless.isEmpty = false
  solid : ∀ list, ∀ value ∈ criteria.values list, Text.isBlank value = false
  long : 1024 < phrase.value.length

theorem admission_of_overlong (blank : phrase.isBlank = true)
    (overlong : Overlong criteria phrase path) :
    compiler.admission (some (criteria.withText phrase)) context path =
      .error (.criteria .overlongText) := by
  refine admission_eq_criteria_iff.mpr ⟨exists_fieldPath_iff.mpr overlong.usable, ?_, ?_⟩
  · rw [Criteria.isEmpty_withText blank, overlong.asking]
  · rw [Criteria.check_withText,
      if_pos ⟨Criteria.blankLists_eq_nil_iff.mpr overlong.solid, overlong.long⟩]

theorem admission_withText (blank : phrase.isBlank = true)
    (short : ¬ Overlong criteria phrase path) :
    compiler.admission (some (criteria.withText phrase)) context path =
      compiler.admission (some criteria.textless) context path := by
  cases asking : criteria.textless.isEmpty with
  | true =>
      unfold admission
      rw [checked_of_isEmpty asking,
        checked_of_isEmpty ((Criteria.isEmpty_withText blank).trans asking)]
  | false =>
      rw [admission_of_asking asking,
        admission_of_asking ((Criteria.isEmpty_withText blank).trans asking)]
      cases resolved : fieldPath path with
      | error fault => rfl
      | ok place =>
          have usable := exists_fieldPath_iff.mp ⟨place, resolved⟩
          rw [Criteria.check_withText, if_neg]
          intro faulty
          exact short
            ⟨usable, asking, Criteria.blankLists_eq_nil_iff.mp faulty.1, faulty.2⟩

/-- Without text, no request is refused for the length of its text. -/
theorem admission_textless_ne_overlongText :
    compiler.admission (some criteria.textless) context path ≠
      .error (.criteria .overlongText) := by
  intro refused
  have checked := (admission_eq_criteria_iff.mp refused).2.2
  cases (Criteria.check_eq_overlongText_iff.mp checked).2

theorem container_withText (blank : phrase.isBlank = true) :
    compiler.container place (criteria.withText phrase) context query =
      compiler.container place criteria.textless context query := by
  have absent : (criteria.withText phrase).phrase? = criteria.textless.phrase? :=
    Criteria.phrase?_withText blank
  have sameLists : compiler.listClauses place (criteria.withText phrase) =
      compiler.listClauses place criteria.textless := rfl
  simp only [container, gathered, withCriteria, requiredClauses, optionalClauses, absent, sameLists]
  rfl

theorem rendering_withText (blank : phrase.isBlank = true) :
    compiler.rendering place (criteria.withText phrase) context =
      compiler.rendering place criteria.textless context := by
  have absent : (criteria.withText phrase).phrase? = criteria.textless.phrase? :=
    Criteria.phrase?_withText blank
  unfold rendering
  rw [absent]
  rfl

theorem compile_withText (blank : phrase.isBlank = true) (short : ¬ Overlong criteria phrase path) :
    compiler.compile (some (criteria.withText phrase)) context query path =
      compiler.compile (some criteria.textless) context query path := by
  simp only [compile_eq, Option.getD_some, admission_withText blank short, container_withText blank]

theorem compileText_withText (blank : phrase.isBlank = true)
    (short : ¬ Overlong criteria phrase path) :
    compiler.compileText (some (criteria.withText phrase)) context path =
      compiler.compileText (some criteria.textless) context path := by
  simp only [compileText_eq, Option.getD_some, admission_withText blank short,
    rendering_withText blank]

theorem compile_of_overlong (blank : phrase.isBlank = true)
    (overlong : Overlong criteria phrase path) :
    compiler.compile (some (criteria.withText phrase)) context query path =
      .error (.criteria .overlongText) := by
  rw [compile_eq, map_eq_error_iff]
  exact admission_of_overlong blank overlong

theorem compileText_of_overlong (blank : phrase.isBlank = true)
    (overlong : Overlong criteria phrase path) :
    compiler.compileText (some (criteria.withText phrase)) context path =
      .error (.criteria .overlongText) := by
  rw [compileText_eq, map_eq_error_iff]
  exact admission_of_overlong blank overlong

/-- Blank text is no text: a request with it has the same clause, the same text or the same fault as
without, unless its blank text is too long. Then it is refused for that, and without its text it is
not. -/
theorem compile_blankText (blank : phrase.isBlank = true) :
    (¬ Overlong criteria phrase path →
      compiler.compile (some (criteria.withText phrase)) context query path =
          compiler.compile (some criteria.textless) context query path ∧
        compiler.compileText (some (criteria.withText phrase)) context path =
          compiler.compileText (some criteria.textless) context path) ∧
    (Overlong criteria phrase path →
      compiler.compile (some (criteria.withText phrase)) context query path =
          .error (.criteria .overlongText) ∧
        compiler.compileText (some (criteria.withText phrase)) context path =
          .error (.criteria .overlongText) ∧
        compiler.compile (some criteria.textless) context query path ≠
          .error (.criteria .overlongText) ∧
        compiler.compileText (some criteria.textless) context path ≠
          .error (.criteria .overlongText)) := by
  refine ⟨fun short => ⟨compile_withText blank short, compileText_withText blank short⟩,
    fun overlong => ⟨compile_of_overlong blank overlong, compileText_of_overlong blank overlong,
      ?_, ?_⟩⟩
  · rw [compile_eq, ne_eq, map_eq_error_iff]
    exact admission_textless_ne_overlongText
  · rw [compileText_eq, ne_eq, map_eq_error_iff]
    exact admission_textless_ne_overlongText

/-- Text of the greatest length that is allowed may be blank. -/
theorem longest_blank_text_ignored :
    let criteria : Criteria := { ids := ["VPRO_1"] }
    let phrase := Phrase.spaces 1024 .must
    phrase.isBlank = true ∧ ¬ Overlong criteria phrase (some "") ∧
      compile ⟨.media, {}⟩ (some (criteria.withText phrase)) {} {} (some "") =
        .ok (.bool [] [] [.term "mid" "VPRO_1"] none) := by
  intro criteria phrase
  have blank : phrase.isBlank = true := Phrase.isBlank_spaces
  have short : ¬ Overlong criteria phrase (some "") := by
    intro overlong
    have long := overlong.long
    rw [Phrase.length_spaces] at long
    omega
  have asked : compile ⟨.media, {}⟩ (some criteria.textless) {} {} (some "") =
      .ok (.bool [] [] [.term "mid" "VPRO_1"] none) := rfl
  exact ⟨blank, short, ((compile_blankText blank).1 short).1.trans asked⟩

/-- One more space, and the same request is refused, in both renderings. With nothing but the spaces
to ask for, it is accepted again. -/
theorem longer_blank_text_refused :
    let criteria : Criteria := { ids := ["VPRO_1"] }
    let phrase := Phrase.spaces 1025 .must
    phrase.isBlank = true ∧
      compile ⟨.media, {}⟩ (some criteria.textless) {} {} (some "") =
        .ok (.bool [] [] [.term "mid" "VPRO_1"] none) ∧
      compile ⟨.media, {}⟩ (some (criteria.withText phrase)) {} {} (some "") =
        .error (.criteria .overlongText) ∧
      compileText ⟨.media, {}⟩ (some criteria.textless) {} (some "") =
        .ok ⟨"mid:VPRO_1", .all⟩ ∧
      compileText ⟨.media, {}⟩ (some (criteria.withText phrase)) {} (some "") =
        .error (.criteria .overlongText) ∧
      compile ⟨.media, {}⟩ (some (Criteria.withText {} phrase)) {} {} (some "") =
        .ok .everything := by
  intro criteria phrase
  have blank : phrase.isBlank = true := Phrase.isBlank_spaces
  have overlong : Overlong criteria phrase (some "") := {
    usable := ⟨"", rfl, rfl⟩
    asking := rfl
    solid := by
      intro list
      cases list <;> decide
    long := by
      rw [Phrase.length_spaces]
      omega }
  have nothing : ¬ Overlong {} phrase (some "") := fun overlong => nomatch overlong.asking
  have ignored : compile ⟨.media, {}⟩ (some (Criteria.textless {})) {} {} (some "") =
      .ok .everything := rfl
  exact ⟨blank, rfl, compile_of_overlong blank overlong, by decide +kernel,
    compileText_of_overlong blank overlong, (compile_withText blank nothing).trans ignored⟩

end Compiler

end Retrieval
