import Mathlib.Logic.Basic
import Retrieval.Proofs.Query.Clauses
import Retrieval.Proofs.Query.Container
import Retrieval.Proofs.Text.Words

namespace Retrieval

/-- What a filter asks of the field that its constraint name stands for. -/
def Filter.Holds (filter : Filter) (aliases : Filter.Aliases) (place : String)
    (document : Document) : Prop :=
  let values := document.values (Filter.resolve aliases place filter.field)
  match filter with
  | .equals _ value => value ∈ values
  | .startsWith _ value => ∃ held ∈ values, value.toList <+: held.toList
  | .present field =>
      (∃ held ∈ values, held ≠ "") ∨
        ∃ date, document.date? (Filter.resolve aliases place field) = some date

/-- One of the text fields under a path shares a word with the text. -/
def Document.SharesText (document : Document) (fields : List WeightedField) (place text : String) :
    Prop :=
  ∃ field ∈ fields, ∃ held ∈ document.values (place ++ field.field),
    ∃ word ∈ Text.words text, word ∈ Text.words held

/-- What a request under a path asks of a document, given the container that it is compiled into. -/
structure Compiler.Admits (compiler : Compiler) (place : String) (criteria : Criteria)
    (context : Context) (query : BoolQuery) (document : Document) : Prop where
  /-- The clauses that were there before. -/
  accumulated : ∀ node ∈ query.must ++ query.filter, document.satisfies node = true
  /-- One of the values of each list. -/
  listed : ∀ list, criteria.values list ≠ [] → ∃ value ∈ criteria.values list,
    value ∈ document.values (place ++ compiler.table.fieldOf list)
  filtered : ∀ filter ∈ criteria.filters ++ context.filters,
    filter.Holds compiler.settings.aliases place document
  requiredText : ∀ phrase, criteria.text = some phrase → phrase.isBlank = false →
    phrase.mode = .must → document.SharesText compiler.table.textFields place phrase.value
  /-- Optional text where nothing else is required. -/
  optionalText : ∀ phrase, criteria.text = some phrase → phrase.isBlank = false →
    phrase.mode = .should → query.must = [] → query.filter = [] →
    (∀ list, criteria.values list = []) → criteria.filters = [] → context.filters = [] →
    document.SharesText compiler.table.textFields place phrase.value

namespace Document

variable {document : Document}

theorem sharesWord_iff {field query : String} :
    document.sharesWord field query = true ↔
      ∃ held ∈ document.values field, ∃ word ∈ Text.words query, word ∈ Text.words held := by
  simp only [sharesWord, List.any_eq_true, List.mem_flatMap, List.contains_iff_mem]
  constructor
  · intro given
    obtain ⟨word, ⟨held, heldThere, inHeld⟩, inQuery⟩ := given
    exact ⟨held, heldThere, word, inQuery, inHeld⟩
  · intro given
    obtain ⟨held, heldThere, word, inQuery, inHeld⟩ := given
    exact ⟨word, ⟨held, heldThere, inHeld⟩, inQuery⟩

theorem satisfies_clause_iff {aliases : Filter.Aliases} {place : String} {filter : Filter} :
    document.satisfies (filter.clause aliases place) = true ↔
      filter.Holds aliases place document := by
  cases filter with
  | equals field value =>
      simp [Filter.clause, Filter.toNode, Filter.Holds, Filter.field, satisfies, holds]
  | startsWith field value =>
      simp [Filter.clause, Filter.toNode, Filter.Holds, Filter.field, satisfies, holdsBeginning]
  | present field =>
      simp [Filter.clause, Filter.toNode, Filter.Holds, Filter.field, satisfies, has,
        Option.isSome_iff_exists]

theorem satisfies_textClauses_iff {fields : List WeightedField} {place text : String} :
    (∃ node ∈ textClauses fields place text, document.satisfies node = true) ↔
      document.SharesText fields place text := by
  simp only [textClauses, List.mem_map, exists_exists_and_eq_and, satisfies, sharesWord_iff,
    Text.words_trim, SharesText]

theorem satisfies_categoryNode? {field : String} {values : List String} {node : Node}
    (few : values.length < UInt32.size)
    (found : Compiler.categoryNode? field values = some node) :
    document.satisfies node = true ↔ ∃ value ∈ values, value ∈ document.values field := by
  have short : (values.map (Node.term field)).length < UInt32.size := by simpa using few
  rw [satisfies_anyOf? short found]
  simp [satisfies, holds]

end Document

namespace Compiler

variable {compiler : Compiler} {place : String} {criteria : Criteria} {context : Context}
  {query : BoolQuery} {document : Document}

theorem mem_listClauses_iff {node : Node} :
    node ∈ compiler.listClauses place criteria ↔
      ∃ list, categoryNode? (place ++ compiler.table.fieldOf list) (criteria.values list) =
        some node := by
  simp only [listClauses, categories, List.mem_filterMap, List.mem_filter, List.mem_map]
  constructor
  · intro given
    obtain ⟨_, ⟨⟨list, _, rfl⟩, _⟩, found⟩ := given
    exact ⟨list, found⟩
  · intro given
    obtain ⟨list, found⟩ := given
    have listed : list ∈ Category.choices := by cases list <;> decide
    refine ⟨_, ⟨⟨list, listed, rfl⟩, ?_⟩, found⟩
    cases empty : criteria.values list with
    | nil =>
        rw [empty] at found
        contradiction
    | cons value values => rfl

theorem categoryNode?_eq_none_iff (field : String) (values : List String) :
    categoryNode? field values = none ↔ values = [] := by
  rw [categoryNode?, Node.anyOf?_eq_none_iff, List.map_eq_nil_iff]

theorem listClauses_eq_nil_iff :
    compiler.listClauses place criteria = [] ↔ ∀ list, criteria.values list = [] := by
  rw [List.eq_nil_iff_forall_not_mem]
  simp only [mem_listClauses_iff, not_exists]
  constructor
  · intro absent list
    rw [← categoryNode?_eq_none_iff (place ++ compiler.table.fieldOf list)]
    exact Option.eq_none_iff_forall_ne_some.mpr fun node => absent node list
  · intro empty node list
    rw [(categoryNode?_eq_none_iff _ _).mpr (empty list)]
    simp

theorem satisfies_listClauses_iff
    (countable : ∀ node ∈ compiler.listClauses place criteria, node.Countable) :
    (∀ node ∈ compiler.listClauses place criteria, document.satisfies node = true) ↔
      ∀ list, criteria.values list ≠ [] → ∃ value ∈ criteria.values list,
        value ∈ document.values (place ++ compiler.table.fieldOf list) := by
  have meaning : ∀ {list node},
      categoryNode? (place ++ compiler.table.fieldOf list) (criteria.values list) = some node →
      (document.satisfies node = true ↔ ∃ value ∈ criteria.values list,
        value ∈ document.values (place ++ compiler.table.fieldOf list)) := by
    intro list node found
    have few := (countable node (mem_listClauses_iff.mpr ⟨list, found⟩)).options found
    exact Document.satisfies_categoryNode? (by simpa using few) found
  constructor
  · intro satisfied list given
    obtain ⟨node, found⟩ := Option.ne_none_iff_exists'.mp
      (mt (categoryNode?_eq_none_iff (place ++ compiler.table.fieldOf list) _).mp given)
    exact (meaning found).mp (satisfied node (mem_listClauses_iff.mpr ⟨list, found⟩))
  · intro holds node member
    obtain ⟨list, found⟩ := mem_listClauses_iff.mp member
    refine (meaning found).mpr (holds list fun empty => ?_)
    rw [(categoryNode?_eq_none_iff _ _).mpr empty] at found
    contradiction

theorem fieldClauses_ne_nil {phrase : Phrase} (hasFields : compiler.table.textFields ≠ []) :
    compiler.fieldClauses place phrase ≠ [] := by
  simpa [fieldClauses, textClauses] using hasFields

theorem requiredClauses_eq_nil_iff : compiler.requiredClauses place criteria = [] ↔
    ∀ phrase, criteria.phrase? = some phrase → phrase.mode = .must →
      compiler.table.textFields = [] := by
  unfold requiredClauses
  cases found : criteria.phrase? with
  | none => simp
  | some phrase =>
      cases mode : phrase.mode with
      | should => simp [mode]
      | must =>
          simp only [mode, Option.toList_eq_nil_iff, Node.anyOf?_eq_none_iff, fieldClauses,
            textClauses, List.map_eq_nil_iff, Option.some.injEq, forall_eq', forall_const]

theorem optionalClauses_eq_nil_iff : compiler.optionalClauses place criteria = [] ↔
    ∀ phrase, criteria.phrase? = some phrase → phrase.mode = .should →
      compiler.table.textFields = [] := by
  unfold optionalClauses
  cases found : criteria.phrase? with
  | none => simp
  | some phrase =>
      cases mode : phrase.mode with
      | must => simp [mode]
      | should =>
          simp only [mode, fieldClauses, textClauses, List.map_eq_nil_iff, Option.some.injEq,
            forall_eq', forall_const]

theorem satisfies_requiredClauses_iff (hasFields : compiler.table.textFields ≠ [])
    (countable : ∀ node ∈ compiler.requiredClauses place criteria, node.Countable) :
    (∀ node ∈ compiler.requiredClauses place criteria, document.satisfies node = true) ↔
      ∀ phrase, criteria.phrase? = some phrase → phrase.mode = .must →
        document.SharesText compiler.table.textFields place phrase.value := by
  unfold requiredClauses at countable ⊢
  cases found : criteria.phrase? with
  | none => simp
  | some phrase =>
      cases mode : phrase.mode with
      | should => simp [mode]
      | must =>
          have given : compiler.fieldClauses place phrase ≠ [] := fieldClauses_ne_nil hasFields
          obtain ⟨node, chosen⟩ := Option.ne_none_iff_exists'.mp
            (mt Node.anyOf?_eq_none_iff.mp given)
          have few : (compiler.fieldClauses place phrase).length < UInt32.size :=
            (countable node (by simp [found, mode, chosen])).options chosen
          simp only [mode, chosen, Option.toList_some, List.mem_singleton, forall_eq,
            Option.some.injEq, forall_eq', forall_const]
          rw [Document.satisfies_anyOf? few chosen]
          exact Document.satisfies_textClauses_iff

@[simp] theorem must_restricted (given full : BoolQuery) :
    (restricted given full).must = full.must := by
  unfold restricted
  split <;> rfl

@[simp] theorem should_restricted (given full : BoolQuery) :
    (restricted given full).should = full.should := by
  unfold restricted
  split <;> rfl

@[simp] theorem filter_restricted (given full : BoolQuery) :
    (restricted given full).filter = full.filter := by
  unfold restricted
  split <;> rfl

/-- Nothing is required of a document if no part of the request requires anything. -/
theorem hasRequired_gathered_eq_false_iff :
    (compiler.gathered place criteria context query).hasRequired = false ↔
      query.must = [] ∧ compiler.requiredClauses place criteria = [] ∧ query.filter = [] ∧
        (∀ list, criteria.values list = []) ∧ criteria.filters = [] ∧ context.filters = [] := by
  simp [gathered, withCriteria, BoolQuery.hasRequired, listClauses_eq_nil_iff, filterClauses,
    and_assoc]

theorem optionalClauses_cases (compiler : Compiler) (place : String) (criteria : Criteria) :
    compiler.optionalClauses place criteria = [] ∨
      ∃ phrase, criteria.phrase? = some phrase ∧ phrase.mode = .should ∧
        compiler.optionalClauses place criteria = compiler.fieldClauses place phrase := by
  unfold optionalClauses
  cases found : criteria.phrase? with
  | none => exact .inl rfl
  | some phrase =>
      cases mode : phrase.mode with
      | must => simp [mode]
      | should => exact .inr ⟨phrase, rfl, mode, by simp [mode]⟩

/-- Optional clauses that were added count if nothing else is required. -/
theorem requiredOptional_restricted {given full : BoolQuery} (noOptional : given.should = [])
    (unlimited : full.minimum = none) :
    (restricted given full).requiredOptional =
      if full.should = [] ∨ full.hasRequired = true then 0 else 1 := by
  obtain ⟨must, should, filter, minimum⟩ := full
  cases unlimited
  unfold restricted BoolQuery.requiredOptional BoolQuery.effectiveMinimum BoolQuery.hasRequired
  cases should with
  | nil => simp
  | cons option options =>
      cases must with
      | cons node nodes => simp
      | nil =>
          cases filter with
          | cons node nodes => simp
          | nil => simp [noOptional]

/-- A container that was given without optional clauses asks for optional text exactly if it asks
for nothing else. -/
theorem enough_optional_iff (hasFields : compiler.table.textFields ≠ [])
    (noOptional : query.should = []) (noMinimum : query.minimum = none)
    (few : (compiler.container place criteria context query).should.length < UInt32.size) :
    (compiler.container place criteria context query).requiredOptional ≤
        (document.satisfiedCount
          (compiler.container place criteria context query).should).toUInt32 ↔
      ∀ phrase, criteria.phrase? = some phrase → phrase.mode = .should →
        (compiler.gathered place criteria context query).hasRequired = false →
        document.SharesText compiler.table.textFields place phrase.value := by
  have optional : (compiler.gathered place criteria context query).should =
      compiler.optionalClauses place criteria := by
    simp [gathered, withCriteria, noOptional]
  have unlimited : (compiler.gathered place criteria context query).minimum = none := noMinimum
  unfold container at few ⊢
  rw [should_restricted, optional] at few ⊢
  rw [requiredOptional_restricted noOptional unlimited, optional]
  rcases optionalClauses_cases compiler place criteria with none | ⟨phrase, found, mode, some⟩
  · rw [if_pos (.inl none)]
    refine iff_of_true UInt32.zero_le fun phrase found mode _ => ?_
    simp [optionalClauses, found, mode, fieldClauses_ne_nil hasFields] at none
  · have given : compiler.fieldClauses place phrase ≠ [] := fieldClauses_ne_nil hasFields
    rw [some] at few ⊢
    cases alone : (compiler.gathered place criteria context query).hasRequired with
    | false =>
        rw [if_neg (by simp [given]), Document.one_le_satisfiedCount few]
        simp only [found, Option.some.injEq, forall_eq', mode, forall_const]
        exact Document.satisfies_textClauses_iff
    | true => simp

theorem satisfies_filterClauses_iff {filters : List Filter} :
    (∀ node ∈ compiler.filterClauses place filters, document.satisfies node = true) ↔
      ∀ filter ∈ filters, filter.Holds compiler.settings.aliases place document := by
  simp only [filterClauses, List.forall_mem_map, Document.satisfies_clause_iff]

/-- Each part of a request holds if its clauses in the container do. -/
theorem satisfies_container_iff (hasFields : compiler.table.textFields ≠ [])
    (noOptional : query.should = []) (noMinimum : query.minimum = none)
    (countable : (compiler.container place criteria context query).toNode.Countable) :
    document.satisfies (compiler.container place criteria context query).asNode = true ↔
      compiler.Admits place criteria context query document := by
  obtain ⟨few, parts⟩ := countable.parts
  rw [Document.satisfies_asNode_iff, enough_optional_iff hasFields noOptional noMinimum few]
  simp only [container, must_restricted, filter_restricted] at parts ⊢
  have required : (∀ node ∈ compiler.requiredClauses place criteria,
      document.satisfies node = true) ↔ _ :=
    satisfies_requiredClauses_iff hasFields fun node member =>
      parts node (by simp [gathered, withCriteria, member])
  have lists : (∀ node ∈ compiler.listClauses place criteria,
      document.satisfies node = true) ↔ _ :=
    satisfies_listClauses_iff fun node member =>
      parts node (by simp [gathered, withCriteria, member])
  simp only [gathered, withCriteria, List.forall_mem_append, required, lists,
    satisfies_filterClauses_iff]
  constructor
  · intro given
    obtain ⟨⟨must, text⟩, ⟨⟨⟨filter, listed⟩, own⟩, contextual⟩, optional⟩ := given
    refine ⟨List.forall_mem_append.mpr ⟨must, filter⟩, listed,
      List.forall_mem_append.mpr ⟨own, contextual⟩, ?_, ?_⟩
    · intro phrase given present mode
      exact text phrase (phrase?_eq_some_iff.mpr ⟨given, present⟩) mode
    · intro phrase given present mode noMust noFilter noLists noFilters noContext
      have found := phrase?_eq_some_iff.mpr ⟨given, present⟩
      have noText : compiler.requiredClauses place criteria = [] := by
        simp [requiredClauses, found, mode]
      exact optional phrase found mode (hasRequired_gathered_eq_false_iff.mpr
        ⟨noMust, noText, noFilter, noLists, noFilters, noContext⟩)
  · intro given
    obtain ⟨accumulated, listed, filtered, text, optional⟩ := given
    obtain ⟨must, filter⟩ := List.forall_mem_append.mp accumulated
    obtain ⟨own, contextual⟩ := List.forall_mem_append.mp filtered
    refine ⟨⟨must, ?_⟩, ⟨⟨⟨filter, listed⟩, own⟩, contextual⟩, ?_⟩
    · intro phrase found mode
      obtain ⟨given, present⟩ := phrase?_eq_some_iff.mp found
      exact text phrase given present mode
    · intro phrase found mode alone
      obtain ⟨given, present⟩ := phrase?_eq_some_iff.mp found
      obtain ⟨noMust, _, noFilter, noLists, noFilters, noContext⟩ :=
        hasRequired_gathered_eq_false_iff.mp alone
      exact optional phrase given present mode noMust noFilter noLists noFilters noContext

/-- A document matches a compiled request exactly if it has what each part of the request asks for.
The container may hold required clauses of any kind already, but no optional ones. -/
theorem satisfies_compile_iff {criteria : Option Criteria} {path : Option String} {node : Node}
    (hasFields : compiler.table.textFields ≠ []) (noOptional : query.should = [])
    (noMinimum : query.minimum = none) (accepted : fieldPath path = .ok place)
    (compiled : compiler.compile criteria context query path = .ok node)
    (countable : node.Countable) :
    document.satisfies node = true ↔
      compiler.Admits place (criteria.getD {}) context query document := by
  obtain rfl := compile_eq_ok accepted compiled
  rw [← satisfies_container_iff hasFields noOptional noMinimum countable,
    Document.satisfies_toNode]
  intro noClauses
  rw [container, should_restricted] at noClauses
  rw [container, restricted, noClauses]
  exact noMinimum

/-- Required text, a list of two values, a constraint name that stands for another field and the
context of published documents, added to a container with a clause of its own. -/
theorem admits_published_subtitles :
    let criteria : Criteria :=
      { text := some ⟨" Lubach ", .must⟩, ids := ["a", "b"], filters := [.equals "descendant" "x"] }
    let query : BoolQuery := { filter := [.present "image"] }
    let document : Document :=
      { id := "1"
        fields := Directory.ofList [("media.content", ["zondag met lubach"]),
          ("media.parent", ["b"]), ("media.descendantOf", ["x"]), ("media.workflow", ["PUBLISHED"]),
          ("image", ["1"])] }
    ∃ node, Compiler.compile ⟨.subtitles, {}⟩ (some criteria) .publishedOnly query (some "media") =
        .ok node ∧ node.Countable ∧
      Compiler.Admits ⟨.subtitles, {}⟩ "media." criteria .publishedOnly query document := by
  intro criteria query document
  let node : Node := .bool [.text "media.content" "Lubach" 1] []
    [.present "image", .bool [] [.term "media.parent" "a", .term "media.parent" "b"] [] (some 1),
      .term "media.descendantOf" "x", .term "media.workflow" "PUBLISHED"] none
  have compiled : Compiler.compile ⟨.subtitles, {}⟩ (some criteria) .publishedOnly query
      (some "media") = .ok node := rfl
  have countable : node.Countable := by
    simp [node, Node.Countable, Node.AllCountable, UInt32.size]
  have fields : (Compiler.table ⟨.subtitles, {}⟩).textFields ≠ [] := List.cons_ne_nil _ _
  refine ⟨node, compiled, countable, ?_⟩
  exact (satisfies_compile_iff fields rfl rfl rfl compiled countable).mp (by decide +kernel)

end Compiler

end Retrieval
