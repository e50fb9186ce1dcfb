import Retrieval.Compiler
import Retrieval.Proofs.Outcome

namespace Retrieval

/-- The clause of a filter under a path, with its constraint name resolved. -/
def Filter.clause (aliases : Filter.Aliases) (place : String) (filter : Filter) : Node :=
  filter.toNode (Filter.resolve aliases place filter.field)

theorem Filter.node_eq_ok {aliases : Filter.Aliases} {place : String} {filter : Filter}
    {node : Node} (made : Filter.node aliases place filter = .ok node) :
    node = filter.clause aliases place := by
  obtain ⟨_, _, same⟩ := bind_eq_ok_iff.mp made
  cases same
  rfl

theorem Filter.nodes_eq_ok {aliases : Filter.Aliases} {place : String} {filters : List Filter}
    {nodes : List Node} (made : Filter.nodes aliases place filters = .ok nodes) :
    nodes = filters.map (Filter.clause aliases place) := by
  unfold Filter.nodes at made
  induction filters generalizing nodes with
  | nil =>
      cases made
      rfl
  | cons filter rest induction =>
      rw [List.mapM_cons] at made
      obtain ⟨node, first, following⟩ := bind_eq_ok_iff.mp made
      obtain ⟨others, tail, same⟩ := bind_eq_ok_iff.mp following
      cases same
      rw [Filter.node_eq_ok first, induction tail, List.map_cons]

namespace Compiler

variable {compiler : Compiler} {place : String} {criteria : Criteria} {context : Context}
  {query : BoolQuery}

def filterClauses (compiler : Compiler) (place : String) (filters : List Filter) : List Node :=
  filters.map (Filter.clause compiler.settings.aliases place)

theorem filterNodes_eq_ok {filters : List Filter} {nodes : List Node}
    (made : compiler.filterNodes place filters = .ok nodes) :
    nodes = compiler.filterClauses place filters :=
  Filter.nodes_eq_ok (mapError_eq_ok_iff.mp made)

def fieldClauses (compiler : Compiler) (place : String) (phrase : Phrase) : List Node :=
  textClauses compiler.table.textFields place phrase.value

/-- The required clause for the free text. -/
def requiredClauses (compiler : Compiler) (place : String) (criteria : Criteria) : List Node :=
  match criteria.phrase? with
  | none => []
  | some phrase =>
      match phrase.mode with
      | .must => (Node.anyOf? (compiler.fieldClauses place phrase)).toList
      | .should => []

/-- The optional clauses for the free text. -/
def optionalClauses (compiler : Compiler) (place : String) (criteria : Criteria) : List Node :=
  match criteria.phrase? with
  | none => []
  | some phrase =>
      match phrase.mode with
      | .must => []
      | .should => compiler.fieldClauses place phrase

def listClauses (compiler : Compiler) (place : String) (criteria : Criteria) : List Node :=
  (compiler.categories place criteria).filterMap fun entry => categoryNode? entry.1 entry.2

/-- The container with the clauses of the criteria. -/
def withCriteria (compiler : Compiler) (place : String) (criteria : Criteria) (query : BoolQuery) :
    BoolQuery where
  must := query.must ++ compiler.requiredClauses place criteria
  should := query.should ++ compiler.optionalClauses place criteria
  filter :=
    query.filter ++ compiler.listClauses place criteria ++
      compiler.filterClauses place criteria.filters
  minimum := query.minimum

/-- The container with the clauses of the criteria and of the context. -/
def gathered (compiler : Compiler) (place : String) (criteria : Criteria) (context : Context)
    (query : BoolQuery) : BoolQuery :=
  let added := compiler.withCriteria place criteria query
  { added with filter := added.filter ++ compiler.filterClauses place context.filters }

/-- The whole container of a request. -/
def container (compiler : Compiler) (place : String) (criteria : Criteria) (context : Context)
    (query : BoolQuery) : BoolQuery :=
  restricted query (compiler.gathered place criteria context query)

theorem phrase?_eq_some_iff {phrase : Phrase} :
    criteria.phrase? = some phrase ↔ criteria.text = some phrase ∧ phrase.isBlank = false := by
  simp [Criteria.phrase?, Option.filter_eq_some_iff]

theorem addText_eq {phrase : Phrase} (found : criteria.phrase? = some phrase) :
    query.addText compiler.table.textFields place phrase =
      { query with
        must := query.must ++ compiler.requiredClauses place criteria
        should := query.should ++ compiler.optionalClauses place criteria } := by
  have given := (phrase?_eq_some_iff.mp found).2
  cases mode : phrase.mode <;>
    simp [BoolQuery.addText, requiredClauses, optionalClauses, fieldClauses, found, given, mode]

theorem addCriteria_eq_ok {added : BoolQuery}
    (made : compiler.addCriteria place criteria query = .ok added) :
    added = compiler.withCriteria place criteria query := by
  obtain ⟨nodes, filters, same⟩ := bind_eq_ok_iff.mp made
  cases same
  unfold withCriteria listClauses
  rw [filterNodes_eq_ok filters]
  cases found : criteria.phrase? with
  | none => simp [requiredClauses, optionalClauses, found]
  | some phrase => simp only [addText_eq found]

/-- Criteria that restrict nothing add no clause. -/
theorem withCriteria_of_isEmpty (empty : criteria.isEmpty = true) :
    compiler.withCriteria place criteria query = query := by
  simp only [Criteria.isEmpty, Bool.and_eq_true, Option.isNone_iff_eq_none,
    List.isEmpty_iff] at empty
  obtain ⟨⟨⟨⟨noPhrase, noIds⟩, noTypes⟩, noLanguages⟩, noFilters⟩ := empty
  have noLists : compiler.categories place criteria = [] := by
    simp [categories, Category.choices, Criteria.values, noIds, noTypes, noLanguages]
  simp [withCriteria, requiredClauses, optionalClauses, listClauses, filterClauses, noPhrase,
    noLists, noFilters]

theorem checked_of_isEmpty (empty : criteria.isEmpty = true) :
    compiler.checked (some criteria) = .ok none := by
  simp only [checked, Option.filter_some, empty, Bool.not_true, Bool.false_eq_true, if_false]
  rfl

theorem checked_of_asking (asking : criteria.isEmpty = false) :
    compiler.checked (some criteria) =
      ((criteria.check compiler.settings.maxConstraints).mapError .criteria).map
        fun _ => some criteria := by
  simp only [checked, Option.filter_some, asking, Bool.not_false, if_true]
  cases criteria.check compiler.settings.maxConstraints <;> rfl

/-- Missing criteria are criteria that restrict nothing. -/
theorem checked_eq_ok {criteria given : Option Criteria}
    (checked : compiler.checked criteria = .ok given) :
    (given = none ∧ (criteria.getD {}).isEmpty = true) ∨ given = some (criteria.getD {}) := by
  cases criteria with
  | none =>
      cases checked
      exact .inl ⟨rfl, rfl⟩
  | some criteria =>
      cases empty : criteria.isEmpty with
      | true =>
          rw [checked_of_isEmpty empty] at checked
          cases checked
          exact .inl ⟨rfl, empty⟩
      | false =>
          rw [checked_of_asking empty] at checked
          obtain ⟨_, _, same⟩ := map_eq_ok_iff.mp checked
          cases same
          exact .inr rfl

/-- The last steps of compiling add the filters of the context and close the container. -/
theorem close_eq_ok {added : BoolQuery} {node : Node}
    (closed : (do
      let required ← compiler.filterNodes place context.filters
      return (restricted query { added with filter := added.filter ++ required }).toNode) =
        .ok node) :
    node = (restricted query { added with
      filter := added.filter ++ compiler.filterClauses place context.filters }).toNode := by
  obtain ⟨nodes, required, same⟩ := bind_eq_ok_iff.mp closed
  cases same
  rw [filterNodes_eq_ok required]

/-- An accepted request becomes its container. -/
theorem compile_eq_ok {criteria : Option Criteria} {path : Option String} {node : Node}
    (accepted : fieldPath path = .ok place)
    (compiled : compiler.compile criteria context query path = .ok node) :
    node = (compiler.container place (criteria.getD {}) context query).toNode := by
  obtain ⟨found, resolved, following⟩ := bind_eq_ok_iff.mp compiled
  obtain rfl : found = place := Except.ok.inj (resolved.symm.trans accepted)
  obtain ⟨given, checked, rest⟩ := bind_eq_ok_iff.mp following
  rcases checked_eq_ok checked with ⟨rfl, empty⟩ | rfl
  · rw [close_eq_ok rest]
    unfold container gathered
    rw [withCriteria_of_isEmpty empty]
  · obtain ⟨added, made, closed⟩ := bind_eq_ok_iff.mp rest
    rw [close_eq_ok closed, addCriteria_eq_ok made]
    rfl

end Compiler

end Retrieval
