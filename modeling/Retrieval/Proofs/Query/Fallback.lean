import Retrieval.Proofs.Fragment.Grouping
import Retrieval.Proofs.Query.Acceptance

namespace Retrieval.Compiler

variable {compiler : Compiler} {place : String} {criteria : Option Criteria} {context : Context}
  {query : BoolQuery} {path : Option String}

theorem toNode_eq_everything_iff (solid : ∀ node ∈ query.must, node ≠ .everything) :
    query.toNode = .everything ↔ query.must = [] ∧ query.should = [] ∧ query.filter = [] := by
  obtain ⟨must, should, filter, minimum⟩ := query
  unfold BoolQuery.toNode
  split
  · simp_all
  · rename_i node oneMust noShould noFilter
    simp only at oneMust
    subst oneMust
    simpa using solid node (by simp)
  · rename_i several _
    refine iff_of_false (fun same => by cases same) ?_
    rintro ⟨rfl, rfl, rfl⟩
    exact several rfl rfl rfl

theorem anyOf?_ne_everything {nodes : List Node} {node : Node}
    (solid : ∀ node ∈ nodes, node ≠ .everything) (found : Node.anyOf? nodes = some node) :
    node ≠ .everything := by
  unfold Node.anyOf? at found
  split at found
  · contradiction
  · cases found
    exact solid node (by simp)
  · cases found
    exact Node.noConfusion

theorem requiredClauses_ne_everything {given : Criteria} :
    ∀ node ∈ compiler.requiredClauses place given, node ≠ .everything := by
  unfold requiredClauses
  intro node member
  split at member
  · contradiction
  · split at member
    · refine anyOf?_ne_everything ?_ (Option.mem_toList.mp member)
      intro clause inClauses
      obtain ⟨field, _, rfl⟩ := List.mem_map.mp inClauses
      exact Node.noConfusion
    · contradiction

/-- Free text that is not blank adds a clause. -/
theorem textClauses_eq_nil_iff {given : Criteria} (hasFields : compiler.table.textFields ≠ []) :
    compiler.requiredClauses place given = [] ∧ compiler.optionalClauses place given = [] ↔
      given.phrase? = none := by
  rw [requiredClauses_eq_nil_iff, optionalClauses_eq_nil_iff]
  constructor
  · rintro ⟨required, optional⟩
    refine Option.eq_none_iff_forall_ne_some.mpr fun phrase found => ?_
    cases mode : phrase.mode with
    | must => exact hasFields (required phrase found mode)
    | should => exact hasFields (optional phrase found mode)
  · intro none
    simp [none]

theorem categories_eq_nil_iff {given : Criteria} :
    compiler.categories place given = [] ↔ ∀ list, given.values list = [] := by
  constructor
  · intro none list
    have listed : list ∈ Category.choices := by cases list <;> decide
    simp only [categories, List.filter_eq_nil_iff, List.forall_mem_map] at none
    simpa using none list listed
  · exact categories_eq_nil

/-- A compiled request is every document only if neither its criteria nor its context ask for
anything. -/
theorem toNode_container_eq_everything_iff {given : Criteria}
    (hasFields : compiler.table.textFields ≠ []) (empty : query.isEmpty = true) :
    (compiler.container place given context query).toNode = .everything ↔
      given.isEmpty = true ∧ context.filters = [] := by
  obtain ⟨must, should, filter, minimum⟩ := query
  simp only [BoolQuery.isEmpty, BoolQuery.clauseCount, beq_iff_eq, Nat.add_eq_zero_iff,
    List.length_eq_zero_iff] at empty
  obtain ⟨⟨rfl, rfl⟩, rfl⟩ := empty
  rw [toNode_eq_everything_iff]
  · have noText : compiler.requiredClauses place given = [] ∧
        compiler.optionalClauses place given = [] ↔ _ := textClauses_eq_nil_iff hasFields
    simp only [container, must_restricted, should_restricted, filter_restricted, gathered,
      withCriteria, List.nil_append, List.append_eq_nil_iff, listClauses_eq_nil_iff, filterClauses,
      List.map_eq_nil_iff, Criteria.isEmpty_iff, ← noText, and_assoc]
  · intro node member
    rw [container, must_restricted] at member
    exact requiredClauses_ne_everything node (by simpa [gathered, withCriteria] using member)

theorem isBlank_phraseText {phrase : Phrase} (given : phrase.isBlank = false) :
    Text.isBlank (phraseText phrase) = false := by
  unfold phraseText
  cases phrase.mode with
  | should => exact given
  | must =>
      have kept : Text.trim phrase.value ≠ "" := by
        intro none
        simp [Phrase.isBlank, Text.isBlank_iff_trim_eq.mpr none] at given
      simp only [requiredText, String.isEmpty_iff, kept, if_false]
      refine Text.isBlank_eq_false_iff.mpr ⟨'+', ?_, by decide⟩
      split <;> simp

theorem isBlank_toText (filter : Filter) (name : String) :
    Text.isBlank (filter.toText name) = false := by
  refine Text.isBlank_eq_false_iff.mpr ⟨':', ?_, by decide⟩
  cases filter <;> simp [Filter.toText]

theorem isBlank_filterPart (filter : Filter) :
    Text.isBlank (compiler.filterPart place filter) = false := by
  have alone (text : String) (solid : Text.isBlank text = false) :
      Text.isBlank ((Fragment.Grouping.undeclared .all).append text).close.text = false := by
    simpa [Fragment.Grouping.appendAll] using
      Fragment.Grouping.isBlank_close_of_mem (List.mem_singleton_self text) solid
  exact alone _ (isBlank_toText filter _)

theorem isBlank_categoryText {field : String} {values : List String} (given : values ≠ []) :
    Text.isBlank (categoryText field values) = false := by
  obtain ⟨value, rest, rfl⟩ := List.exists_cons_of_ne_nil given
  exact Fragment.Grouping.isBlank_close_of_mem (List.mem_cons_self ..)
    (isBlank_toText (.equals field value) field)

/-- The text of a request is blank only if neither its criteria nor its context ask for anything. -/
theorem isBlank_rendering_iff {given : Criteria} :
    (compiler.rendering place given context).isBlank = true ↔
      given.isEmpty = true ∧ context.filters = [] := by
  have lists : (∀ text ∈ (compiler.categories place given).map fun entry =>
      categoryText entry.1 entry.2, Text.isBlank text = true) ↔
      compiler.categories place given = [] := by
    constructor
    · intro blank
      refine List.eq_nil_iff_forall_not_mem.mpr fun entry member => ?_
      have given : entry.2 ≠ [] := by
        simpa using (List.mem_filter.mp member).2
      have none := blank _ (List.mem_map_of_mem member)
      simp [isBlank_categoryText given] at none
    · intro none
      simp [none]
  have filters : (∀ text ∈ (given.filters ++ context.filters).map (compiler.filterPart place),
      Text.isBlank text = true) ↔ given.filters = [] ∧ context.filters = [] := by
    rw [← List.append_eq_nil_iff, List.eq_nil_iff_forall_not_mem, List.forall_mem_map]
    simp only [isBlank_filterPart, Bool.false_eq_true]
  have phrases : given.phrase? = none ∨
      ∃ phrase, given.phrase? = some phrase ∧ Text.isBlank (phraseText phrase) = false := by
    cases found : given.phrase? with
    | none => exact .inl rfl
    | some phrase =>
        exact .inr ⟨phrase, rfl, isBlank_phraseText (phrase?_eq_some_iff.mp found).2⟩
  unfold rendering Fragment.isBlank
  rcases phrases with none | ⟨phrase, found, solid⟩
  · simp only [none, Fragment.ClosedGroup.build, Fragment.Grouping.isBlank_close_appendAll,
      List.forall_mem_append, lists, filters, Criteria.isEmpty_iff, categories_eq_nil_iff,
      true_and, and_assoc]
  · simp [found, Fragment.ClosedGroup.build, Fragment.ClosedGroup.isBlank_freeText, solid,
      Criteria.isEmpty_iff]

/-- Both renderings accept the same requests and refuse the others for the same fault. Compiled into
a container without clauses, a request is every document exactly if it asks for nothing. Its text is
the one for every document then, and otherwise the rendering of what it asks for. -/
theorem compile_compileText_agree (compiler : Compiler) (criteria : Option Criteria)
    (context : Context) (query : BoolQuery) (path : Option String) :
    (∀ fault, compiler.compile criteria context query path = .error fault ↔
        compiler.compileText criteria context path = .error fault) ∧
      ((∃ fault, compiler.compile criteria context query path = .error fault) ↔
        compiler.Refused criteria context path) ∧
      ∀ node fragment, compiler.compile criteria context query path = .ok node →
        compiler.compileText criteria context path = .ok fragment →
        compiler.table.textFields ≠ [] → query.isEmpty = true →
        (node = .everything ↔ (criteria.getD {}).isEmpty = true ∧ context.filters = []) ∧
        (node = .everything → fragment.text = "*:*") ∧
        (node ≠ .everything → fragment.isBlank = false ∧
          ∃ place, fieldPath path = .ok place ∧
            fragment = compiler.rendering place (criteria.getD {}) context) := by
  refine ⟨fun fault => ?_, ?_, fun node fragment compiled rendered hasFields empty => ?_⟩
  · rw [compile_eq, compileText_eq, map_eq_error_iff, map_eq_error_iff]
  · simp only [compile_eq, map_eq_error_iff]
    exact exists_refusal_iff
  · rw [compile_eq] at compiled
    rw [compileText_eq] at rendered
    obtain ⟨place, admitted, rfl⟩ := map_eq_ok_iff.mp compiled
    obtain ⟨same, again, rfl⟩ := map_eq_ok_iff.mp rendered
    obtain rfl : place = same := Except.ok.inj (admitted.symm.trans again)
    have nothing : (compiler.container place (criteria.getD {}) context query).toNode =
        .everything ↔ _ := toNode_container_eq_everything_iff hasFields empty
    refine ⟨nothing, fun everything => ?_, fun something => ?_⟩
    · rw [orEverything, if_pos (isBlank_rendering_iff.mpr (nothing.mp everything))]
      rfl
    · have solid : (compiler.rendering place (criteria.getD {}) context).isBlank = false := by
        by_contra blank
        exact something (nothing.mpr (isBlank_rendering_iff.mp ((Bool.not_eq_false _).mp blank)))
      rw [orEverything, solid]
      exact ⟨solid, place, fieldPath_of_admission admitted, rfl⟩

/-- Blank text asks for nothing, so only the context keeps this request from being every
document. -/
theorem agree_on_published_media :
    let criteria : Criteria := { text := some ⟨"  ", .must⟩ }
    let query : BoolQuery := { minimum := some 2 }
    ∃ node fragment,
      compile ⟨.media, {}⟩ (some criteria) .publishedOnly query (some "media") = .ok node ∧
        compileText ⟨.media, {}⟩ (some criteria) .publishedOnly (some "media") = .ok fragment ∧
        node ≠ .everything ∧ fragment.isBlank = false := by
  intro criteria query
  have compiled : compile ⟨.media, {}⟩ (some criteria) .publishedOnly query (some "media") =
      .ok (.bool [] [] [.term "media.workflow" "PUBLISHED"] (some 2)) := rfl
  have rendered : compileText ⟨.media, {}⟩ (some criteria) .publishedOnly (some "media") =
      .ok ⟨"media.workflow:PUBLISHED", .all⟩ := by rfl
  have agree := (compile_compileText_agree ⟨.media, {}⟩ (some criteria) .publishedOnly query
    (some "media")).2.2 _ _ compiled rendered (List.cons_ne_nil _ _) rfl
  exact ⟨_, _, compiled, rendered, Node.noConfusion, (agree.2.2 Node.noConfusion).1⟩

end Retrieval.Compiler
