import Retrieval.Proofs.Query.Acceptance

/-!
What further restrictions do to a request. Whatever is required stays required; optional clauses
that nothing else accompanies have to match in part, and cease to once something is required.
-/

namespace Retrieval

namespace BoolQuery

variable {query : BoolQuery}

theorem hasRequired_eq_false_iff :
    query.hasRequired = false ↔ query.must = [] ∧ query.filter = [] := by
  simp [hasRequired]

/-- Optional clauses are all that the container has, and it leaves open how many of them count. -/
structure OnlyOptional (query : BoolQuery) : Prop where
  unlimited : query.minimum = none
  nothingRequired : query.hasRequired = false
  someOptional : query.should ≠ []

theorem requiredOptional_of_onlyOptional (only : query.OnlyOptional) :
    query.requiredOptional = 1 := by
  obtain ⟨must, should, filter, minimum⟩ := query
  obtain ⟨unlimited, nothing, some⟩ := only
  simp_all [requiredOptional, effectiveMinimum, hasRequired]

theorem requiredOptional_of_not_onlyOptional (more : ¬ query.OnlyOptional) :
    query.requiredOptional = query.minimum.getD 0 := by
  obtain ⟨must, should, filter, minimum⟩ := query
  cases minimum with
  | some count => rfl
  | none =>
      simp only [requiredOptional, effectiveMinimum, Option.getD_none, ite_eq_right_iff]
      intro alone
      simp only [Bool.and_eq_true, List.isEmpty_iff, Bool.not_eq_true',
        List.isEmpty_eq_false_iff] at alone
      obtain ⟨⟨rfl, rfl⟩, some⟩ := alone
      exact absurd ⟨rfl, rfl, some⟩ more

/-- Only a single required clause may stand for the container that it is in. -/
theorem toNode_eq_asNode
    (several : 1 < query.must.length ∨ query.should ≠ [] ∨ query.filter ≠ []) :
    query.toNode = query.asNode := by
  unfold toNode
  split
  · simp_all
  · simp_all
  · rfl

end BoolQuery

/-- The container has nothing but one required clause, and yet it asks for optional ones. -/
def BoolQuery.AsksInVain (query : BoolQuery) (node : Node) : Prop :=
  ∃ count, query = { must := [node], minimum := some count } ∧ 0 < count

namespace Document

variable {document : Document} {query : BoolQuery} {node : Node}

/-- The shorter form of a container asks for no more than the container. -/
theorem satisfies_toNode_of_asNode (satisfied : document.satisfies query.asNode = true) :
    document.satisfies query.toNode = true := by
  obtain ⟨required, _, _⟩ := satisfies_asNode_iff.mp satisfied
  unfold BoolQuery.toNode
  split
  · rfl
  · rename_i node oneMust _ _
    exact required node (by simp [oneMust])
  · exact satisfied

/-- The shorter form of a container keeps what is required. -/
theorem satisfies_required_of_toNode (satisfied : document.satisfies query.toNode = true) :
    ∀ node ∈ query.must ++ query.filter, document.satisfies node = true := by
  unfold BoolQuery.toNode at satisfied
  split at satisfied
  · simp_all
  · simp_all
  · obtain ⟨must, filter, _⟩ := satisfies_asNode_iff.mp satisfied
    exact List.forall_mem_append.mpr ⟨must, filter⟩

theorem satisfies_asNode_single {minimum : Option UInt32} :
    document.satisfies (BoolQuery.asNode { must := [node], minimum }) = true ↔
      document.satisfies node = true ∧ minimum.getD 0 = 0 := by
  have more : ¬ BoolQuery.OnlyOptional { must := [node], minimum } := fun only => by
    simpa using only.someOptional
  have nothing : ∀ count : UInt32, count ≤ 0 ↔ count = 0 := fun count => UInt32.le_zero_iff
  rw [satisfies_asNode_iff, BoolQuery.requiredOptional_of_not_onlyOptional more]
  simp [satisfiedCount, nothing]

/-- A container with clauses means the same in its shorter form, unless it has nothing but one
required clause and asks for optional ones. Then no document matches the container, but its shorter
form is the required clause. -/
theorem satisfies_shortened (some : query.isEmpty = false) :
    ((∀ node, ¬ query.AsksInVain node) →
        document.satisfies query.toNode = document.satisfies query.asNode) ∧
      ∀ node, query.AsksInVain node → document.satisfies query.asNode = false ∧
        document.satisfies query.toNode = document.satisfies node := by
  constructor
  · intro reasonable
    obtain ⟨must, should, filter, minimum⟩ := query
    unfold BoolQuery.toNode
    split
    · rename_i noMust noShould noFilter
      simp only at noMust noShould noFilter
      subst must should filter
      contradiction
    · rename_i node oneMust noShould noFilter
      simp only at oneMust noShould noFilter
      subst must should filter
      have unasked : minimum.getD 0 = 0 := by
        cases minimum with
        | none => rfl
        | some count =>
            by_contra asked
            exact reasonable node ⟨count, rfl, UInt32.pos_iff_ne_zero.mpr asked⟩
      rw [Bool.eq_iff_iff, satisfies_asNode_single, and_iff_left unasked]
    · rfl
  · rintro node ⟨count, rfl, positive⟩
    refine ⟨?_, rfl⟩
    rw [← Bool.not_eq_true, satisfies_asNode_single]
    rintro ⟨_, unasked⟩
    exact UInt32.pos_iff_ne_zero.mp positive unasked

/-- A minimum of zero is as good as none. -/
theorem shortened_single_clip :
    let query : BoolQuery := { must := [.term "type" "CLIP"], minimum := some 0 }
    query.isEmpty = false ∧ (∀ node, ¬ query.AsksInVain node) ∧
      ∀ document : Document, document.satisfies (.term "type" "CLIP") =
        document.satisfies (.bool [.term "type" "CLIP"] [] [] (some 0)) := by
  intro query
  have reasonable : ∀ node, ¬ query.AsksInVain node := by
    rintro node ⟨count, same, positive⟩
    have zero : 0 = count := Option.some.inj (congrArg BoolQuery.minimum same)
    exact absurd positive (zero ▸ UInt32.lt_irrefl 0)
  exact ⟨rfl, reasonable, fun _ => (satisfies_shortened rfl).1 reasonable⟩

/-- The container asks for an optional clause that it does not have. -/
theorem minimum_of_single_clause_forgotten :
    let query : BoolQuery := { must := [.term "type" "CLIP"], minimum := some 1 }
    let document : Document := { id := "1", fields := Directory.ofList [("type", ["CLIP"])] }
    query.isEmpty = false ∧ document.satisfies query.toNode = true ∧
      document.satisfies query.asNode = false := by
  decide +kernel

end Document

namespace Compiler

variable {compiler : Compiler} {place : String} {criteria : Criteria} {context : Context}
  {query : BoolQuery} {document : Document}

/-- A minimum that is written down for optional text is the one that would have held anyway. -/
theorem requiredOptional_restricted_eq (given full : BoolQuery) :
    (restricted given full).requiredOptional = full.requiredOptional := by
  obtain ⟨must, should, filter, minimum⟩ := full
  unfold restricted
  split
  · rename_i alone
    simp only [Bool.and_eq_true, decide_eq_true_eq, Bool.not_eq_true',
      Option.isNone_iff_eq_none] at alone
    obtain ⟨⟨longer, nothing⟩, rfl⟩ := alone
    have some : should ≠ [] := by
      rintro rfl
      simp at longer
    rw [BoolQuery.requiredOptional_of_onlyOptional ⟨rfl, nothing, some⟩]
    rfl
  · rfl

theorem satisfies_asNode_restricted (given full : BoolQuery) :
    document.satisfies (restricted given full).asNode = document.satisfies full.asNode := by
  rw [Bool.eq_iff_iff, Document.satisfies_asNode_iff, Document.satisfies_asNode_iff,
    requiredOptional_restricted_eq, must_restricted, should_restricted, filter_restricted]

/-- Neither the criteria of a request nor its context require anything. -/
structure RequiresNothing (compiler : Compiler) (criteria : Criteria) (context : Context) :
    Prop where
  lists : ∀ list, criteria.values list = []
  filters : criteria.filters = []
  context : context.filters = []
  text : ∀ phrase, criteria.phrase? = some phrase → phrase.mode = .must →
    compiler.table.textFields = []

/-- The criteria of a request have optional text, and there are fields to look for it. -/
def AddsOptional (compiler : Compiler) (criteria : Criteria) : Prop :=
  ∃ phrase, criteria.phrase? = some phrase ∧ phrase.mode = .should ∧
    compiler.table.textFields ≠ []

/-- Optional clauses are all that restricts a request: those of the container it is compiled into,
which leaves open how many of them count, and its optional text. -/
structure OnlyOptional (compiler : Compiler) (criteria : Criteria) (context : Context)
    (query : BoolQuery) : Prop where
  unlimited : query.minimum = none
  nothingGiven : query.hasRequired = false
  nothingAdded : compiler.RequiresNothing criteria context
  someOptional : query.should ≠ [] ∨ compiler.AddsOptional criteria

theorem optionalClauses_eq_nil_iff_not_addsOptional (compiler : Compiler) (place : String)
    (criteria : Criteria) :
    compiler.optionalClauses place criteria = [] ↔ ¬ compiler.AddsOptional criteria := by
  simp [optionalClauses_eq_nil_iff, AddsOptional]

theorem hasRequired_gathered_iff :
    (compiler.gathered place criteria context query).hasRequired = false ↔
      query.hasRequired = false ∧ compiler.RequiresNothing criteria context := by
  rw [hasRequired_gathered_eq_false_iff, requiredClauses_eq_nil_iff]
  simp only [BoolQuery.hasRequired, Bool.or_eq_false_iff, Bool.not_eq_false', List.isEmpty_iff]
  constructor
  · rintro ⟨noMust, noText, noFilter, noLists, noFilters, noContext⟩
    exact ⟨⟨noMust, noFilter⟩, noLists, noFilters, noContext, noText⟩
  · rintro ⟨⟨noMust, noFilter⟩, noLists, noFilters, noContext, noText⟩
    exact ⟨noMust, noText, noFilter, noLists, noFilters, noContext⟩

theorem onlyOptional_gathered_iff :
    (compiler.gathered place criteria context query).OnlyOptional ↔
      compiler.OnlyOptional criteria context query := by
  have optional : (compiler.gathered place criteria context query).should ≠ [] ↔
      query.should ≠ [] ∨ compiler.AddsOptional criteria := by
    have noText := optionalClauses_eq_nil_iff_not_addsOptional compiler place criteria
    rw [← not_iff_not]
    simp [gathered, withCriteria, noText]
  constructor
  · rintro ⟨unlimited, nothing, present⟩
    obtain ⟨nothingGiven, nothingAdded⟩ := hasRequired_gathered_iff.mp nothing
    exact ⟨unlimited, nothingGiven, nothingAdded, optional.mp present⟩
  · rintro ⟨unlimited, nothingGiven, nothingAdded, present⟩
    exact ⟨unlimited, hasRequired_gathered_iff.mpr ⟨nothingGiven, nothingAdded⟩,
      optional.mpr present⟩

theorem gathered_withFilter (filter : Filter) :
    compiler.gathered place criteria (context.withFilter filter) query =
      let shorter := compiler.gathered place criteria context query
      { shorter with
        filter := shorter.filter ++ [filter.clause compiler.settings.aliases place] } := by
  simp [gathered, filterClauses, Context.withFilter]

/-- A request with one more filter in its context asks for what it asked for before, and for what
the filter does. It asks for optional clauses only if a minimum is stated. -/
theorem satisfies_withFilter_iff {filter : Filter} :
    document.satisfies
        (compiler.container place criteria (context.withFilter filter) query).toNode = true ↔
      let shorter := compiler.gathered place criteria context query
      (∀ node ∈ shorter.must, document.satisfies node = true) ∧
        (∀ node ∈ shorter.filter, document.satisfies node = true) ∧
        filter.Holds compiler.settings.aliases place document ∧
        shorter.minimum.getD 0 ≤ (document.satisfiedCount shorter.should).toUInt32 := by
  have filtered : (compiler.container place criteria (context.withFilter filter) query).filter ≠
      [] := by
    simp [container, gathered_withFilter]
  have required :
      ¬ (compiler.gathered place criteria (context.withFilter filter) query).OnlyOptional := by
    intro only
    have nothing := only.nothingRequired
    simp [gathered_withFilter, BoolQuery.hasRequired] at nothing
  rw [BoolQuery.toNode_eq_asNode (.inr (.inr filtered)), container, satisfies_asNode_restricted,
    Document.satisfies_asNode_iff, BoolQuery.requiredOptional_of_not_onlyOptional required,
    gathered_withFilter]
  simp only [List.forall_mem_append, List.forall_mem_singleton, Document.satisfies_clause_iff,
    and_assoc]

theorem admission_withFilter {criteria : Option Criteria} {path : Option String} {filter : Filter}
    (valid : filter.check = .ok ()) :
    compiler.admission criteria (context.withFilter filter) path =
      compiler.admission criteria context path := by
  have one : checkFilters [filter] = .ok () := by
    simp [checkFilters_eq_ok_iff, Filter.check_eq_ok_iff.mp valid]
  have same : checkFilters (context.withFilter filter).filters =
      checkFilters context.filters := by
    unfold checkFilters Context.withFilter at *
    rw [forM_append_eq, one]
    cases context.filters.forM fun filter => filter.check.mapError Fault.filter <;> rfl
  unfold admission
  rw [same]

/-- A filter that is added to the context of a request changes nothing in which requests are
accepted. A document that matches the longer request has what the filter asks for, and it matches
the shorter request unless optional clauses are all that restricts that one. -/
theorem satisfies_withFilter {criteria : Option Criteria} {path : Option String} {filter : Filter}
    (valid : filter.check = .ok ()) :
    (∀ fault, compiler.compile criteria (context.withFilter filter) query path = .error fault ↔
      compiler.compile criteria context query path = .error fault) ∧
    ∀ place node narrower, fieldPath path = .ok place →
      compiler.compile criteria context query path = .ok node →
      compiler.compile criteria (context.withFilter filter) query path = .ok narrower →
      ∀ document : Document,
        (document.satisfies narrower = true →
          filter.Holds compiler.settings.aliases place document) ∧
        (¬ compiler.OnlyOptional (criteria.getD {}) context query →
          document.satisfies narrower = true → document.satisfies node = true) ∧
        (compiler.OnlyOptional (criteria.getD {}) context query →
          (document.satisfies narrower = true ↔
            filter.Holds compiler.settings.aliases place document)) := by
  refine ⟨fun fault => ?_, fun place node narrower resolved compiled longer document => ?_⟩
  · rw [compile_eq, compile_eq, map_eq_error_iff, map_eq_error_iff, admission_withFilter valid]
  · obtain rfl := compile_eq_ok resolved compiled
    obtain rfl := compile_eq_ok resolved longer
    have alone : (compiler.gathered place (criteria.getD {}) context query).OnlyOptional ↔ _ :=
      onlyOptional_gathered_iff
    rw [satisfies_withFilter_iff, ← alone]
    refine ⟨fun given => given.2.2.1, fun more given => ?_, fun only => ?_⟩
    · obtain ⟨must, filters, _, enough⟩ := given
      refine Document.satisfies_toNode_of_asNode ?_
      rw [container, satisfies_asNode_restricted, Document.satisfies_asNode_iff,
        BoolQuery.requiredOptional_of_not_onlyOptional more]
      exact ⟨must, filters, enough⟩
    · obtain ⟨noMust, noFilter⟩ := BoolQuery.hasRequired_eq_false_iff.mp only.nothingRequired
      simp [noMust, noFilter, only.unlimited]

/-- Subtitles of clips that are asked for with optional text are so still when they have to be
published. -/
theorem published_clips_match_unpublished_request :
    let criteria : Criteria := { text := some ⟨"lubach", .should⟩, types := ["CLIP"] }
    let document : Document :=
      { id := "1"
        fields := Directory.ofList [("media.type", ["CLIP"]), ("media.workflow", ["PUBLISHED"])] }
    (Filter.equals "workflow" "PUBLISHED").check = .ok () ∧
      ∃ node narrower,
        compile ⟨.subtitles, {}⟩ (some criteria) {} {} (some "media") = .ok node ∧
          compile ⟨.subtitles, {}⟩ (some criteria) .publishedOnly {} (some "media") =
            .ok narrower ∧
          document.satisfies narrower = true ∧ document.satisfies node = true := by
  intro criteria document
  let text : Node := .text "media.content" "lubach" 1
  let node : Node := .bool [] [text] [.term "media.type" "CLIP"] none
  let narrower : Node :=
    .bool [] [text] [.term "media.type" "CLIP", .term "media.workflow" "PUBLISHED"] none
  have valid : (Filter.equals "workflow" "PUBLISHED").check = .ok () := by rfl
  have compiled : compile ⟨.subtitles, {}⟩ (some criteria) {} {} (some "media") = .ok node := rfl
  have longer : compile ⟨.subtitles, {}⟩ (some criteria) .publishedOnly {} (some "media") =
      .ok narrower := rfl
  have more : ¬ OnlyOptional ⟨.subtitles, {}⟩ criteria {} {} :=
    fun only => List.cons_ne_nil _ _ (only.nothingAdded.lists .types)
  have satisfied : document.satisfies narrower = true := by decide +kernel
  exact ⟨valid, node, narrower, compiled, longer, satisfied,
    ((satisfies_withFilter valid).2 "media." node narrower rfl compiled longer document).2.1
      more satisfied⟩

/-- A further required filter can bring in documents: optional text that is all a request asks for
has to match, and need not any more once documents have to be published. -/
theorem optional_text_lapses_when_published :
    let criteria : Criteria := { text := some ⟨"lubach", .should⟩ }
    let document : Document :=
      { id := "1"
        fields := Directory.ofList [("titles.value", ["nieuws"]), ("workflow", ["PUBLISHED"])] }
    ∃ node narrower,
      compile ⟨.media, {}⟩ (some criteria) {} {} (some "") = .ok node ∧
        compile ⟨.media, {}⟩ (some criteria) .publishedOnly {} (some "") = .ok narrower ∧
        document.satisfies narrower = true ∧ document.satisfies node = false :=
  ⟨_, _, rfl, rfl, by decide +kernel, by decide +kernel⟩

/-- A container with a single required clause, to which a request adds nothing. The clause then
stands for the container, whatever minimum that had. -/
structure StandsAlone (compiler : Compiler) (criteria : Criteria) (context : Context)
    (query : BoolQuery) : Prop where
  single : query.must.length = 1
  noOptional : query.should = []
  noFilter : query.filter = []
  nothingAdded : compiler.RequiresNothing criteria context
  noText : ¬ compiler.AddsOptional criteria

/-- A request keeps the number of optional clauses that a container asks for, unless that asks only
because nothing is required, or is left out for its single clause. -/
structure KeepsCount (compiler : Compiler) (criteria : Criteria) (context : Context)
    (query : BoolQuery) : Prop where
  given : query.isEmpty = false
  counted : query.minimum ≠ none ∨ compiler.RequiresNothing criteria context
  apart : ¬ compiler.StandsAlone criteria context query

theorem requiredOptional_le_gathered
    (counted : query.minimum ≠ none ∨ compiler.RequiresNothing criteria context) :
    query.requiredOptional ≤
      (compiler.gathered place criteria context query).requiredOptional := by
  by_cases only : query.OnlyOptional
  · have nothingAdded := counted.resolve_left (not_not.mpr only.unlimited)
    have onlyStill : (compiler.gathered place criteria context query).OnlyOptional :=
      onlyOptional_gathered_iff.mpr
        ⟨only.unlimited, only.nothingRequired, nothingAdded, .inl only.someOptional⟩
    rw [BoolQuery.requiredOptional_of_onlyOptional only,
      BoolQuery.requiredOptional_of_onlyOptional onlyStill]
    exact UInt32.le_refl 1
  · cases minimum : query.minimum with
    | none =>
        rw [BoolQuery.requiredOptional_of_not_onlyOptional only, minimum]
        exact UInt32.zero_le
    | some count =>
        simp [BoolQuery.requiredOptional, gathered, withCriteria, minimum,
          BoolQuery.effectiveMinimum]

theorem toNode_container_eq_asNode (given : query.isEmpty = false)
    (apart : ¬ compiler.StandsAlone criteria context query) :
    (compiler.container place criteria context query).toNode =
      (compiler.container place criteria context query).asNode := by
  refine BoolQuery.toNode_eq_asNode ?_
  by_contra short
  simp only [container, must_restricted, should_restricted, filter_restricted, gathered,
    withCriteria, not_or, Nat.not_lt, ne_eq, not_not, List.append_eq_nil_iff,
    List.length_append] at short
  obtain ⟨few, ⟨noOptional, noText⟩, ⟨⟨noFilter, noLists⟩, noFilters⟩, noContext⟩ := short
  have single : query.must.length ≠ 0 := by
    intro none
    simp [BoolQuery.isEmpty, BoolQuery.clauseCount, none, noOptional, noFilter] at given
  have noRequired : compiler.requiredClauses place criteria = [] :=
    List.eq_nil_of_length_eq_zero (by omega)
  exact apart
    { single := by omega
      noOptional := noOptional
      noFilter := noFilter
      nothingAdded :=
        { lists := listClauses_eq_nil_iff.mp noLists
          filters := List.map_eq_nil_iff.mp noFilters
          context := List.map_eq_nil_iff.mp noContext
          text := requiredClauses_eq_nil_iff.mp noRequired }
      noText :=
        (optionalClauses_eq_nil_iff_not_addsOptional compiler place criteria).mp noText }

/-- What a container requires is required of every document that matches a request compiled into
it. -/
theorem satisfies_required_of_container
    (satisfied : document.satisfies
      (compiler.container place criteria context query).toNode = true) :
    ∀ clause ∈ query.must ++ query.filter, document.satisfies clause = true := by
  intro clause member
  refine Document.satisfies_required_of_toNode satisfied clause ?_
  simp only [container, must_restricted, filter_restricted, gathered, withCriteria]
  rcases List.mem_append.mp member with inMust | inFilter
  · simp [inMust]
  · simp [inFilter]

/-- The optional clauses of a container and those of optional text are counted together. -/
theorem enough_of_container (keeps : compiler.KeepsCount criteria context query)
    (satisfied : document.satisfies
      (compiler.container place criteria context query).toNode = true) :
    query.requiredOptional ≤ (document.satisfiedCount
      (query.should ++ compiler.optionalClauses place criteria)).toUInt32 := by
  rw [toNode_container_eq_asNode keeps.given keeps.apart, container,
    satisfies_asNode_restricted] at satisfied
  obtain ⟨_, _, enough⟩ := Document.satisfies_asNode_iff.mp satisfied
  exact UInt32.le_trans (requiredOptional_le_gathered keeps.counted) enough

/-- What a document that matches a request has of what the container asked for that the request is
compiled into. All required clauses hold. The optional clauses of the container and those of the
optional text are counted together, and as many of them hold as the container asked for if the
request keeps that number. -/
theorem satisfies_accumulated {criteria : Option Criteria} {path : Option String} {node : Node}
    (resolved : fieldPath path = .ok place)
    (compiled : compiler.compile criteria context query path = .ok node)
    (satisfied : document.satisfies node = true) :
    (∀ clause ∈ query.must ++ query.filter, document.satisfies clause = true) ∧
      (compiler.KeepsCount (criteria.getD {}) context query →
        query.requiredOptional.toNat ≤
          (query.should ++ compiler.optionalClauses place (criteria.getD {})).countP
            document.satisfies) ∧
      (query.requiredOptional = 0 ∨
          compiler.KeepsCount (criteria.getD {}) context query ∧
            ¬ compiler.AddsOptional (criteria.getD {}) →
        document.satisfies query.asNode = true) := by
  obtain rfl := compile_eq_ok resolved compiled
  have required := satisfies_required_of_container satisfied
  refine ⟨required, fun keeps => ?_, fun asked => ?_⟩
  · have counted := UInt32.le_iff_toNat_le.mp (enough_of_container keeps satisfied)
    rw [Document.satisfiedCount_eq_countP] at counted
    exact Nat.le_trans counted (by simpa using Nat.mod_le _ _)
  · obtain ⟨must, filter⟩ := List.forall_mem_append.mp required
    refine Document.satisfies_asNode_iff.mpr ⟨must, filter, ?_⟩
    rcases asked with none | ⟨keeps, noText⟩
    · rw [none]
      exact UInt32.zero_le
    · have counted := enough_of_container keeps satisfied
      rwa [(optionalClauses_eq_nil_iff_not_addsOptional compiler place _).mpr noText,
        List.append_nil] at counted

/-- The container asks for one of two clauses by itself, and the published clips that match keep
one of them. -/
theorem accumulated_image_or_location :
    let query : BoolQuery :=
      { should := [.present "image", .present "locations"], minimum := some 1 }
    let document : Document :=
      { id := "1"
        fields := Directory.ofList [("type", ["CLIP"]), ("workflow", ["PUBLISHED"]),
          ("locations", ["nl"])] }
    ∃ node, compile ⟨.media, {}⟩ (some { types := ["CLIP"] }) .publishedOnly query (some "") =
        .ok node ∧
      document.satisfies node = true ∧ document.satisfies query.asNode = true := by
  intro query document
  let node : Node := .bool [] [.present "image", .present "locations"]
    [.term "type" "CLIP", .term "workflow" "PUBLISHED"] (some 1)
  have compiled : compile ⟨.media, {}⟩ (some { types := ["CLIP"] }) .publishedOnly query (some "") =
      .ok node := rfl
  have satisfied : document.satisfies node = true := by decide +kernel
  have noText : ¬ AddsOptional ⟨.media, {}⟩ { types := ["CLIP"] } := by
    rintro ⟨phrase, found, _⟩
    cases found
  have keeps : KeepsCount ⟨.media, {}⟩ { types := ["CLIP"] } .publishedOnly query :=
    { given := rfl
      counted := .inl (Option.some_ne_none 1)
      apart := fun alone => List.cons_ne_nil _ _ alone.noOptional }
  exact ⟨node, compiled, satisfied,
    (satisfies_accumulated rfl compiled satisfied).2.2 (.inr ⟨keeps, noText⟩)⟩

/-- A container that asks for an optional clause only because it has no others need not be matched
once the request requires something. -/
theorem optional_clause_lapses_when_published :
    let query : BoolQuery := { should := [.term "type" "CLIP"] }
    let document : Document :=
      { id := "1"
        fields := Directory.ofList [("type", ["SEGMENT"]), ("workflow", ["PUBLISHED"])] }
    ∃ node, compile ⟨.media, {}⟩ none .publishedOnly query (some "") = .ok node ∧
      document.satisfies node = true ∧ document.satisfies query.asNode = false :=
  ⟨_, rfl, by decide +kernel, by decide +kernel⟩

end Compiler

end Retrieval
