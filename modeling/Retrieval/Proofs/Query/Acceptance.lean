import Mathlib.Tactic.ByContra
import Retrieval.Proofs.Outcome
import Retrieval.Proofs.Query.Meaning

/-!
Which requests are accepted. A request is admitted before anything is made of it, in both
renderings by the same checks in the same order, and each of them makes its result of every request
that is admitted.
-/

namespace Retrieval

/-- Filters without a name, and those with a value that is blank. -/
inductive Filter.Faulty (filter : Filter) : Prop where
  | unnamed (blank : Text.isBlank filter.field = true)
  | blankValue (given : filter.value? = some value) (blank : Text.isBlank value = true)

theorem Filter.check_eq_ok_iff {filter : Filter} : filter.check = .ok () ↔ ¬ filter.Faulty := by
  unfold Filter.check
  rw [ite_throw_eq_ok_iff, ite_throw_eq_ok_iff, Option.any_eq_true]
  constructor
  · intro accepted faulty
    obtain ⟨named, solid, _⟩ := accepted
    cases faulty with
    | unnamed blank => exact named blank
    | blankValue given blank => exact solid ⟨_, given, blank⟩
  · intro sound
    refine ⟨fun blank => sound (.unnamed blank), fun faulty => ?_, rfl⟩
    obtain ⟨value, given, blank⟩ := faulty
    exact sound (.blankValue given blank)

namespace Criteria

variable {criteria : Criteria} {allowed : Nat}

/-- Criteria with a blank value in a list, with overlong text, with too much in a list, or with a
faulty filter. -/
inductive Malformed (criteria : Criteria) (allowed : Nat) : Prop where
  | blankValue (list : Category) (member : value ∈ criteria.values list)
      (blank : Text.isBlank value = true)
  | overlongText (given : criteria.text = some phrase) (overlong : 1024 < phrase.value.length)
  | tooManyValues (list : Category) (many : allowed < (criteria.values list).length)
  | tooManyFilters (many : allowed < criteria.filters.length)
  | faultyFilter (member : filter ∈ criteria.filters) (faulty : filter.Faulty)

theorem blankLists_eq_nil_iff : criteria.blankLists = [] ↔
    ∀ list, ∀ value ∈ criteria.values list, Text.isBlank value = false := by
  simp only [blankLists, List.filter_eq_nil_iff, List.forall_mem_cons, List.any_eq_true]
  constructor
  · intro solid list value member
    obtain ⟨ids, languages, types, -⟩ := solid
    by_contra blank
    have found : ∃ value ∈ criteria.values list, Text.isBlank value = true :=
      ⟨value, member, by simpa using blank⟩
    cases list with
    | ids => exact ids found
    | types => exact types found
    | languages => exact languages found
  · intro solid
    have none : ∀ list, ¬ ∃ value ∈ criteria.values list, Text.isBlank value = true := by
      intro list ⟨value, member, blank⟩
      simp [solid list value member] at blank
    exact ⟨none .ids, none .languages, none .types, by simp⟩

/-- The checks of criteria, in their order. -/
theorem check_eq_ok_iff_checks : criteria.check allowed = .ok () ↔
    criteria.blankLists = [] ∧
      criteria.text.any (fun phrase => Phrase.lengthLimit < phrase.value.length) = false ∧
      (Category.choices.find? fun list => allowed < (criteria.values list).length) = none ∧
      criteria.filters.length ≤ allowed ∧ ∀ filter ∈ criteria.filters, filter.check = .ok () := by
  unfold check
  simp only [throw_bind, ite_throw_eq_ok_iff, Bool.not_eq_true', Bool.not_eq_false,
    List.isEmpty_iff, Bool.not_eq_true]
  cases Category.choices.find? fun list => allowed < (criteria.values list).length with
  | some list => simp [throw, throwThe, MonadExceptOf.throw]
  | none =>
      simp only [ite_throw_eq_ok_iff, forM_eq_ok_iff, mapError_eq_ok_iff]
      simp

theorem check_eq_ok_iff : criteria.check allowed = .ok () ↔ ¬ criteria.Malformed allowed := by
  have listed : ∀ list, list ∈ Category.choices := by
    intro list
    cases list <;> decide
  rw [check_eq_ok_iff_checks, blankLists_eq_nil_iff, List.find?_eq_none]
  constructor
  · intro accepted malformed
    obtain ⟨solid, short, few, fewFilters, sound⟩ := accepted
    cases malformed with
    | blankValue list member blank => simp [solid list _ member] at blank
    | overlongText given overlong =>
        rw [given, Option.any_some, decide_eq_false_iff_not] at short
        exact short overlong
    | tooManyValues list many => simpa [many] using few list (listed list)
    | tooManyFilters many => omega
    | faultyFilter member faulty => exact Filter.check_eq_ok_iff.mp (sound _ member) faulty
  · intro sound
    refine ⟨fun list value member => ?_, ?_, fun list _ many => ?_, ?_, fun filter member => ?_⟩
    · by_contra blank
      exact sound (.blankValue list member (by simpa using blank))
    · cases given : criteria.text with
      | none => rfl
      | some phrase =>
          by_contra overlong
          rw [Option.any_some, Bool.not_eq_false, decide_eq_true_eq] at overlong
          exact sound (.overlongText given overlong)
    · exact sound (.tooManyValues list (by simpa using many))
    · by_contra many
      exact sound (.tooManyFilters (by omega))
    · exact Filter.check_eq_ok_iff.mpr fun faulty => sound (.faultyFilter member faulty)

theorem isEmpty_iff : criteria.isEmpty = true ↔
    criteria.phrase? = none ∧ (∀ list, criteria.values list = []) ∧ criteria.filters = [] := by
  simp only [isEmpty, Bool.and_eq_true, Option.isNone_iff_eq_none, List.isEmpty_iff]
  constructor
  · rintro ⟨⟨⟨⟨noPhrase, noIds⟩, noTypes⟩, noLanguages⟩, noFilters⟩
    refine ⟨noPhrase, fun list => ?_, noFilters⟩
    cases list <;> assumption
  · rintro ⟨noPhrase, noLists, noFilters⟩
    exact ⟨⟨⟨⟨noPhrase, noLists .ids⟩, noLists .types⟩, noLists .languages⟩, noFilters⟩

end Criteria

namespace Compiler

variable {compiler : Compiler} {place : String} {criteria : Option Criteria} {context : Context}
  {query : BoolQuery} {path : Option String}

def checkFilters (filters : List Filter) : Except Fault Unit :=
  filters.forM fun filter => filter.check.mapError .filter

/-- What both renderings ask of a request. The answer is the path before every field name. -/
def admission (compiler : Compiler) (criteria : Option Criteria) (context : Context)
    (path : Option String) : Except Fault String := do
  let place ← fieldPath path
  let _ ← compiler.checked criteria
  checkFilters context.filters
  return place

theorem checkFilters_eq_ok_iff {filters : List Filter} :
    checkFilters filters = .ok () ↔ ∀ filter ∈ filters, ¬ filter.Faulty := by
  simp only [checkFilters, forM_eq_ok_iff, mapError_eq_ok_iff, Filter.check_eq_ok_iff]

/-- The criteria that are looked at have passed their check, with all their filters. -/
theorem checkFilters_of_checked {given : Criteria}
    (checked : compiler.checked criteria = .ok (some given)) :
    checkFilters given.filters = .ok () := by
  unfold Compiler.checked at checked
  split at checked
  · cases checked
  · obtain ⟨_, sound, same⟩ := bind_eq_ok_iff.mp checked
    cases same
    have steps := Criteria.check_eq_ok_iff_checks.mp (mapError_eq_ok_iff.mp sound)
    exact checkFilters_eq_ok_iff.mpr fun filter member =>
      Filter.check_eq_ok_iff.mp (steps.2.2.2.2 filter member)

theorem filterNodes_eq (filters : List Filter) :
    compiler.filterNodes place filters =
      (do checkFilters filters; return compiler.filterClauses place filters) := by
  have made : Filter.nodes compiler.settings.aliases place filters =
      (do
        filters.forM Filter.check
        return filters.map (Filter.clause compiler.settings.aliases place)) :=
    mapM_checked Filter.check (Filter.clause compiler.settings.aliases place) filters
  rw [filterNodes, made, mapError_bind, mapError_forM]
  rfl

theorem addCriteria_eq {given : Criteria} (sound : checkFilters given.filters = .ok ()) :
    compiler.addCriteria place given query = .ok (compiler.withCriteria place given query) := by
  have made : ∃ added, compiler.addCriteria place given query = .ok added := by
    unfold addCriteria
    rw [filterNodes_eq, sound]
    exact ⟨_, rfl⟩
  obtain ⟨added, made⟩ := made
  rw [made, addCriteria_eq_ok made]

/-- A request that is admitted becomes its container, and any other has the same fault. -/
theorem compile_eq : compiler.compile criteria context query path =
    (compiler.admission criteria context path).map fun place =>
      (compiler.container place (criteria.getD {}) context query).toNode := by
  unfold compile admission
  cases fieldPath path with
  | error fault => rfl
  | ok place =>
      cases checked : compiler.checked criteria with
      | error fault => rfl
      | ok given =>
          rcases checked_eq_ok checked with ⟨rfl, empty⟩ | rfl
          · unfold container gathered
            simp only [withCriteria_of_isEmpty empty, bind, Except.bind, filterNodes_eq]
            cases checkFilters context.filters <;> rfl
          · have sound := checkFilters_of_checked checked
            simp only [bind, Except.bind, addCriteria_eq sound, filterNodes_eq]
            cases checkFilters context.filters <;> rfl

/-- The text of one filter, as it stands between the operators. -/
def filterPart (compiler : Compiler) (place : String) (filter : Filter) : String :=
  ((Fragment.Grouping.undeclared .all).append
    (filter.toText (Filter.resolve compiler.settings.aliases place filter.field))).close.text

/-- The text of a request, which is blank if the request asks for nothing. -/
def rendering (compiler : Compiler) (place : String) (criteria : Criteria) (context : Context) :
    Fragment :=
  let lists := (compiler.categories place criteria).map fun entry => categoryText entry.1 entry.2
  let filters := (criteria.filters ++ context.filters).map (compiler.filterPart place)
  let closed := ((Fragment.Grouping.undeclared .all).appendAll (lists ++ filters)).close
  match criteria.phrase? with
  | some phrase => (closed.freeText (phraseText phrase)).build
  | none => closed.build

def orEverything (fragment : Fragment) : Fragment :=
  if fragment.isBlank then ⟨everythingText, .all⟩ else fragment

/-- Filters that are known to be sound are rendered, whatever becomes of those after them. -/
theorem filterTexts_eq {own : List Filter} (sound : checkFilters own = .ok ())
    (others : List Filter) :
    (own ++ others).mapM (compiler.filterText place) =
      (do checkFilters others; return (own ++ others).map (compiler.filterPart place)) := by
  have made : compiler.filterText place = fun filter =>
      (do filter.check.mapError .filter; return compiler.filterPart place filter) := by
    funext filter
    unfold filterText Filter.text
    cases filter.check <;> rfl
  unfold checkFilters at sound ⊢
  rw [made, mapM_checked, forM_append_eq, sound]
  rfl

theorem ok_orEverything (fragment : Fragment) :
    (if fragment.isBlank then pure ⟨everythingText, .all⟩ else pure fragment :
      Except Fault Fragment) = .ok (orEverything fragment) := by
  unfold orEverything
  split <;> rfl

theorem categories_eq_nil {given : Criteria} (empty : ∀ list, given.values list = []) :
    compiler.categories place given = [] := by
  simp [categories, empty]

/-- A request that is admitted is rendered, and any other has the same fault as in compiling. -/
theorem compileText_eq : compiler.compileText criteria context path =
    (compiler.admission criteria context path).map fun place =>
      orEverything (compiler.rendering place (criteria.getD {}) context) := by
  unfold compileText admission
  cases fieldPath path with
  | error fault => rfl
  | ok place =>
      cases checked : compiler.checked criteria with
      | error fault => rfl
      | ok given =>
          rcases checked_eq_ok checked with ⟨rfl, empty⟩ | rfl
          · obtain ⟨noPhrase, noLists, noFilters⟩ := Criteria.isEmpty_iff.mp empty
            have none : checkFilters ((Option.map Criteria.filters none).getD []) = .ok () := rfl
            unfold rendering
            simp only [bind, Except.bind, filterTexts_eq none, noPhrase, noFilters,
              categories_eq_nil noLists]
            cases checkFilters context.filters with
            | error fault => rfl
            | ok _ => exact ok_orEverything _
          · have sound := checkFilters_of_checked checked
            simp only [bind, Except.bind, Option.map_some, Option.getD_some, filterTexts_eq sound]
            cases checkFilters context.filters with
            | error fault => rfl
            | ok _ => exact ok_orEverything _

theorem exists_fieldPath_iff :
    (∃ place, fieldPath path = .ok place) ↔
      ∃ text, path = some text ∧ Text.hasSpace text = false := by
  cases path with
  | none => simp [fieldPath, throw, throwThe, MonadExceptOf.throw]
  | some text =>
      cases space : Text.hasSpace text with
      | true => simp [fieldPath, space, throw, throwThe, MonadExceptOf.throw]
      | false =>
          simp only [fieldPath, space, Bool.false_eq_true, if_false, Option.some.injEq,
            exists_eq_left', iff_true]
          split <;> exact ⟨_, rfl⟩

theorem exists_checked_iff :
    (∃ given, compiler.checked criteria = .ok given) ↔
      ∀ given, criteria = some given → given.isEmpty = false →
        ¬ given.Malformed compiler.settings.maxConstraints := by
  cases criteria with
  | none => simp [Compiler.checked, pure, Except.pure]
  | some criteria =>
      simp only [Option.some.injEq, forall_eq', ← Criteria.check_eq_ok_iff]
      cases empty : criteria.isEmpty with
      | true => exact iff_of_true ⟨_, checked_of_isEmpty empty⟩ (by simp)
      | false =>
          rw [checked_of_asking empty]
          constructor
          · rintro ⟨given, accepted⟩ _
            obtain ⟨_, sound, _⟩ := map_eq_ok_iff.mp accepted
            exact mapError_eq_ok_iff.mp sound
          · intro sound
            rw [sound rfl]
            exact ⟨_, rfl⟩

/-- The requests that are refused: those without a usable path, with malformed criteria, or with a
faulty filter in their context. Criteria that ask for nothing are not looked at any further. -/
inductive Refused (compiler : Compiler) (criteria : Option Criteria) (context : Context)
    (path : Option String) : Prop where
  | missingPath (missing : path = none)
  | spaceInPath (given : path = some text) (space : Text.hasSpace text = true)
  | criteria (given : criteria = some asked) (asking : asked.isEmpty = false)
      (malformed : asked.Malformed compiler.settings.maxConstraints)
  | context (member : filter ∈ context.filters) (faulty : filter.Faulty)

theorem exists_admission_iff :
    (∃ place, compiler.admission criteria context path = .ok place) ↔
      ¬ compiler.Refused criteria context path := by
  constructor
  · rintro ⟨place, admitted⟩ refused
    obtain ⟨found, resolved, rest⟩ := bind_eq_ok_iff.mp admitted
    obtain ⟨given, checked, rest⟩ := bind_eq_ok_iff.mp rest
    obtain ⟨_, sound, _⟩ := bind_eq_ok_iff.mp rest
    obtain ⟨text, named, noSpace⟩ := exists_fieldPath_iff.mp ⟨found, resolved⟩
    cases refused with
    | missingPath missing => simp [missing] at named
    | spaceInPath given space =>
        rw [named] at given
        cases given
        simp [space] at noSpace
    | criteria asked asking malformed =>
        exact exists_checked_iff.mp ⟨given, checked⟩ _ asked asking malformed
    | context member faulty => exact checkFilters_eq_ok_iff.mp sound _ member faulty
  · intro admissible
    have resolved : ∃ place, fieldPath path = .ok place := by
      refine exists_fieldPath_iff.mpr ?_
      cases path with
      | none => exact absurd (.missingPath rfl) admissible
      | some text =>
          refine ⟨text, rfl, ?_⟩
          by_contra space
          exact admissible (.spaceInPath rfl (by simpa using space))
    have checked : ∃ given, compiler.checked criteria = .ok given :=
      exists_checked_iff.mpr fun given asked asking malformed =>
        admissible (.criteria asked asking malformed)
    have sound : checkFilters context.filters = .ok () :=
      checkFilters_eq_ok_iff.mpr fun filter member faulty => admissible (.context member faulty)
    obtain ⟨place, resolved⟩ := resolved
    obtain ⟨given, checked⟩ := checked
    refine ⟨place, ?_⟩
    unfold admission
    rw [resolved, checked, sound]
    rfl

theorem exists_refusal_iff :
    (∃ fault, compiler.admission criteria context path = .error fault) ↔
      compiler.Refused criteria context path := by
  rw [← not_iff_not, ← exists_admission_iff]
  cases compiler.admission criteria context path with
  | error fault => simp
  | ok place => simp

theorem fieldPath_of_admission (admitted : compiler.admission criteria context path = .ok place) :
    fieldPath path = .ok place := by
  obtain ⟨found, resolved, rest⟩ := bind_eq_ok_iff.mp admitted
  obtain ⟨_, _, rest⟩ := bind_eq_ok_iff.mp rest
  obtain ⟨_, _, same⟩ := bind_eq_ok_iff.mp rest
  cases same
  exact resolved

/-- A request that is admitted has no faulty filter. -/
theorem sound_of_admission (admitted : compiler.admission criteria context path = .ok place) :
    ∀ filter ∈ (criteria.getD {}).filters ++ context.filters, ¬ filter.Faulty := by
  intro filter member faulty
  refine exists_admission_iff.mp ⟨place, admitted⟩ ?_
  rcases List.mem_append.mp member with own | contextual
  · cases criteria with
    | none => contradiction
    | some asked =>
        refine .criteria rfl (Bool.eq_false_iff.mpr fun empty => ?_) (.faultyFilter own faulty)
        rw [Option.getD_some, (Criteria.isEmpty_iff.mp empty).2.2] at own
        contradiction
  · exact .context contextual faulty

end Compiler

end Retrieval
