import Mathlib.Data.List.Nodup
import Retrieval.Proofs.Query.Acceptance

/-!
Requests under a path. A path stands before every name that a request looks at, and does nothing
else: the compiled clause is the one of the same request at the root, moved under the path, and it
holds of a document that has been moved along exactly if the other holds of the document.
-/

namespace Retrieval

theorem append_path_injective (place : String) : Function.Injective (place ++ ·) := by
  intro name other same
  have chars := congrArg String.toList same
  rw [String.toList_append, String.toList_append] at chars
  exact String.toList_inj.mp (List.append_cancel_left chars)

namespace Directory

/-- The directory with a path before every name. -/
def under (directory : Directory α) (place : String) : Directory α where
  entries := directory.entries.map fun entry => (place ++ entry.1, entry.2)
  distinct := by
    have distinct := directory.distinct.map (append_path_injective place)
    simpa only [List.map_map, Function.comp_def] using distinct

theorem findNamed_under (place name : String) (entries : List (String × α)) :
    findNamed (place ++ name) (entries.map fun entry => (place ++ entry.1, entry.2)) =
      findNamed name entries := by
  induction entries with
  | nil => rfl
  | cons entry rest induction =>
      simp only [List.map_cons, findNamed, induction]
      exact if_congr (append_path_injective place).eq_iff rfl rfl

@[simp] theorem find?_under (directory : Directory α) (place name : String) :
    (directory.under place).find? (place ++ name) = directory.find? name :=
  findNamed_under place name directory.entries

end Directory

/-- The document with a path before the name of every field and date. -/
def Document.under (document : Document) (place : String) : Document :=
  { document with
    fields := document.fields.under place
    dates := document.dates.under place }

mutual

/-- The clause with a path before every field. -/
def Node.under (place : String) : Node → Node
  | .everything => .everything
  | .bool must should filter minimum =>
      .bool (Node.allUnder place must) (Node.allUnder place should) (Node.allUnder place filter)
        minimum
  | .term field value => .term (place ++ field) value
  | .beginning field value => .beginning (place ++ field) value
  | .present field => .present (place ++ field)
  | .text field query boost => .text (place ++ field) query boost

def Node.allUnder (place : String) : List Node → List Node
  | [] => []
  | node :: rest => node.under place :: Node.allUnder place rest

end

mutual

/-- The fields that the clause looks at, in the order in which it names them. -/
def Node.fields : Node → List String
  | .everything => []
  | .bool must should filter _ =>
      Node.allFields must ++ Node.allFields should ++ Node.allFields filter
  | .term field _ => [field]
  | .beginning field _ => [field]
  | .present field => [field]
  | .text field _ _ => [field]

def Node.allFields : List Node → List String
  | [] => []
  | node :: rest => node.fields ++ Node.allFields rest

end

namespace Node

variable {place : String}

@[simp] theorem allUnder_eq_map (place : String) (nodes : List Node) :
    allUnder place nodes = nodes.map (under place) := by
  induction nodes with
  | nil => rfl
  | cons node rest induction => rw [allUnder, induction, List.map_cons]

mutual

theorem fields_under (place : String) (node : Node) :
    (node.under place).fields = node.fields.map (place ++ ·) := by
  cases node with
  | bool must should filter minimum =>
      simp only [under, fields, List.map_append, allFields_allUnder place must,
        allFields_allUnder place should, allFields_allUnder place filter]
  | everything => rfl
  | term => rfl
  | beginning => rfl
  | present => rfl
  | text => rfl

theorem allFields_allUnder (place : String) (nodes : List Node) :
    allFields (allUnder place nodes) = (allFields nodes).map (place ++ ·) := by
  cases nodes with
  | nil => rfl
  | cons node rest =>
      rw [allUnder, allFields, allFields, List.map_append, fields_under place node,
        allFields_allUnder place rest]

end

/-- A clause that has been moved under a path looks at nothing outside of it. -/
theorem mem_fields_under {node : Node} {field : String}
    (member : field ∈ (node.under place).fields) : ∃ name, field = place ++ name := by
  rw [fields_under, List.mem_map] at member
  obtain ⟨name, _, same⟩ := member
  exact ⟨name, same.symm⟩

theorem anyOf?_map_under (nodes : List Node) :
    anyOf? (nodes.map (under place)) = (anyOf? nodes).map (under place) := by
  unfold anyOf?
  cases nodes with
  | nil => rfl
  | cons node rest =>
      cases rest with
      | nil => rfl
      | cons next rest => simp [under]

end Node

theorem BoolQuery.effectiveMinimum_allUnder (place : String) (must should filter : List Node)
    (minimum : Option UInt32) :
    effectiveMinimum (Node.allUnder place must) (Node.allUnder place should)
        (Node.allUnder place filter) minimum = effectiveMinimum must should filter minimum := by
  simp only [Node.allUnder_eq_map, effectiveMinimum, List.isEmpty_map]

namespace Document

variable {document : Document} {place : String}

@[simp] theorem values_under (document : Document) (place field : String) :
    (document.under place).values (place ++ field) = document.values field := by
  rw [values, values, under, Directory.find?_under]

@[simp] theorem date?_under (document : Document) (place field : String) :
    (document.under place).date? (place ++ field) = document.date? field := by
  rw [date?, date?, under, Directory.find?_under]

mutual

/-- A clause and a document that are moved under the same path fit as before. -/
theorem satisfies_under (document : Document) (place : String) (node : Node) :
    (document.under place).satisfies (node.under place) = document.satisfies node := by
  cases node with
  | everything => rfl
  | bool must should filter minimum =>
      simp only [Node.under, satisfies, BoolQuery.effectiveMinimum_allUnder,
        satisfiesAll_under document place must, satisfiesAll_under document place filter,
        satisfiedCount_under document place should]
  | term field value => simp only [Node.under, satisfies, holds, values_under]
  | beginning field value => simp only [Node.under, satisfies, holdsBeginning, values_under]
  | present field => simp only [Node.under, satisfies, has, values_under, date?_under]
  | text field query boost => simp only [Node.under, satisfies, sharesWord, values_under]

theorem satisfiesAll_under (document : Document) (place : String) (nodes : List Node) :
    (document.under place).satisfiesAll (Node.allUnder place nodes) =
      document.satisfiesAll nodes := by
  cases nodes with
  | nil => rfl
  | cons node rest =>
      rw [Node.allUnder, satisfiesAll, satisfiesAll, satisfies_under document place node,
        satisfiesAll_under document place rest]

theorem satisfiedCount_under (document : Document) (place : String) (nodes : List Node) :
    (document.under place).satisfiedCount (Node.allUnder place nodes) =
      document.satisfiedCount nodes := by
  cases nodes with
  | nil => rfl
  | cons node rest =>
      rw [Node.allUnder, satisfiedCount, satisfiedCount, satisfies_under document place node,
        satisfiedCount_under document place rest]

end

end Document

/-- The container with a path before every field of its clauses. -/
def BoolQuery.under (place : String) (query : BoolQuery) : BoolQuery :=
  { query with
    must := query.must.map (Node.under place)
    should := query.should.map (Node.under place)
    filter := query.filter.map (Node.under place) }

theorem BoolQuery.toNode_under (place : String) (query : BoolQuery) :
    (query.under place).toNode = query.toNode.under place := by
  obtain ⟨must, should, filter, minimum⟩ := query
  rcases must with _ | ⟨node, _ | ⟨next, must⟩⟩ <;> cases should <;> cases filter <;>
    simp [BoolQuery.under, BoolQuery.toNode, BoolQuery.asNode, Node.under]

namespace Compiler

variable {compiler : Compiler} {place : String} {criteria : Criteria} {context : Context}
  {query : BoolQuery}

theorem restricted_under (given full : BoolQuery) :
    restricted (given.under place) (full.under place) = (restricted given full).under place := by
  have counts : ∀ query : BoolQuery, (query.under place).should.length = query.should.length :=
    fun query => List.length_map _
  have required : (full.under place).hasRequired = full.hasRequired := by
    simp [BoolQuery.under, BoolQuery.hasRequired]
  have minimum : (full.under place).minimum = full.minimum := rfl
  unfold restricted
  rw [counts, counts, required, minimum]
  split <;> rfl

theorem fieldClauses_under (phrase : Phrase) :
    compiler.fieldClauses place phrase =
      (compiler.fieldClauses "" phrase).map (Node.under place) := by
  simp [fieldClauses, textClauses, Node.under]

theorem requiredClauses_under :
    compiler.requiredClauses place criteria =
      (compiler.requiredClauses "" criteria).map (Node.under place) := by
  unfold requiredClauses
  cases criteria.phrase? with
  | none => rfl
  | some phrase =>
      cases mode : phrase.mode with
      | should => simp only [mode, List.map_nil]
      | must =>
          simp only [mode]
          rw [fieldClauses_under, Node.anyOf?_map_under, Option.toList_map]

theorem optionalClauses_under :
    compiler.optionalClauses place criteria =
      (compiler.optionalClauses "" criteria).map (Node.under place) := by
  unfold optionalClauses
  cases criteria.phrase? with
  | none => rfl
  | some phrase =>
      cases mode : phrase.mode with
      | must => simp only [mode, List.map_nil]
      | should =>
          simp only [mode]
          exact fieldClauses_under phrase

theorem categories_under :
    compiler.categories place criteria =
      (compiler.categories "" criteria).map fun entry => (place ++ entry.1, entry.2) := by
  simp only [categories, List.map_map, List.filter_map, Function.comp_def, String.empty_append]

theorem categoryNode?_under (field : String) (values : List String) :
    categoryNode? (place ++ field) values =
      (categoryNode? field values).map (Node.under place) := by
  unfold categoryNode?
  rw [← Node.anyOf?_map_under, List.map_map]
  rfl

theorem listClauses_under :
    compiler.listClauses place criteria =
      (compiler.listClauses "" criteria).map (Node.under place) := by
  have listed : compiler.categories place criteria = _ := categories_under
  simp only [listClauses, listed, List.filterMap_map, List.map_filterMap, Function.comp_def,
    categoryNode?_under]

/-- A filter is resolved before the path is put in front, so an alias means the same under every
path. -/
theorem clause_under (aliases : Filter.Aliases) (filter : Filter) :
    filter.clause aliases place = (filter.clause aliases "").under place := by
  cases filter <;> simp [Filter.clause, Filter.toNode, Filter.resolve, Node.under]

theorem filterClauses_under (filters : List Filter) :
    compiler.filterClauses place filters =
      (compiler.filterClauses "" filters).map (Node.under place) := by
  simp only [filterClauses, List.map_map, Function.comp_def]
  exact List.map_congr_left fun filter _ => clause_under _ filter

theorem container_under :
    compiler.container place criteria context (query.under place) =
      (compiler.container "" criteria context query).under place := by
  have gathered : compiler.gathered place criteria context (query.under place) =
      (compiler.gathered "" criteria context query).under place := by
    unfold Compiler.gathered withCriteria BoolQuery.under
    rw [requiredClauses_under, optionalClauses_under, listClauses_under,
      filterClauses_under criteria.filters, filterClauses_under context.filters]
    simp only [List.map_append]
  rw [container, container, gathered, restricted_under]

/-- Whether a request is admitted does not depend on an accepted path. -/
theorem admission_under {criteria : Option Criteria} {path : Option String}
    (resolved : fieldPath path = .ok place) :
    compiler.admission criteria context path =
      (compiler.admission criteria context (some "")).map fun _ => place := by
  have root : fieldPath (some "") = .ok "" := rfl
  unfold admission
  rw [resolved, root]
  cases compiler.checked criteria with
  | error fault => rfl
  | ok given => cases checkFilters context.filters <;> rfl

theorem compile_under {criteria : Option Criteria} {path : Option String}
    (resolved : fieldPath path = .ok place) :
    compiler.compile criteria context (query.under place) path =
      (compiler.compile criteria context query (some "")).map (Node.under place) := by
  rw [compile_eq, compile_eq, admission_under resolved]
  cases admitted : compiler.admission criteria context (some "") with
  | error fault => rfl
  | ok root =>
      obtain rfl : "" = root := Except.ok.inj (fieldPath_of_admission admitted)
      simp only [Except.map, container_under, BoolQuery.toNode_under]

/-- A path is empty or ends in a point. -/
theorem fieldPath_cases {path : Option String} (resolved : fieldPath path = .ok place) :
    place = "" ∨ place.toList.getLast? = some '.' := by
  unfold fieldPath at resolved
  split at resolved
  · cases resolved
  · split at resolved
    · cases resolved
    · split at resolved
      · rename_i kept
        cases resolved
        simpa using kept
      · cases resolved
        exact .inr (by simp)

/-- Under a path, a request compiles exactly if it does at the root, and to the same clause with the
path before every field. A document that is moved under the path fits the one as it fits the
other. -/
theorem satisfies_relocated {criteria : Option Criteria} {path : Option String}
    (resolved : fieldPath path = .ok place) :
    (place = "" ∨ place.toList.getLast? = some '.') ∧
      ((∃ node, compiler.compile criteria context {} path = .ok node) ↔
        ∃ node, compiler.compile criteria context {} (some "") = .ok node) ∧
      ∀ node root, compiler.compile criteria context {} path = .ok node →
        compiler.compile criteria context {} (some "") = .ok root →
        (∀ document : Document,
          (document.under place).satisfies node = document.satisfies root) ∧
        ∀ field ∈ node.fields, ∃ name, field = place ++ name := by
  have moved : compiler.compile criteria context {} path =
      (compiler.compile criteria context {} (some "")).map (Node.under place) :=
    @compile_under compiler place context {} criteria path resolved
  refine ⟨fieldPath_cases resolved, ?_, fun node root compiled compiledAtRoot => ?_⟩
  · simp only [moved, map_eq_ok_iff]
    constructor
    · rintro ⟨_, root, compiled, _⟩
      exact ⟨root, compiled⟩
    · rintro ⟨root, compiled⟩
      exact ⟨root.under place, root, compiled, rfl⟩
  · rw [moved, compiledAtRoot] at compiled
    obtain rfl : root.under place = node := Except.ok.inj compiled
    exact ⟨fun document => Document.satisfies_under document place root,
      fun field => Node.mem_fields_under⟩

/-- Required text, a list, a filter by an alias and a filter of the context, all in the segments of
a programme. -/
theorem relocated_to_segments :
    let criteria : Criteria :=
      { text := some ⟨"lubach", .must⟩
        types := ["CLIP", "ALBUM"]
        filters := [.startsWith "member" "urn:"] }
    let document : Document :=
      { id := "1"
        fields := Directory.ofList [("content", ["Zondag met Lubach"]), ("type", ["CLIP"]),
          ("memberOf", ["urn:vpro:1"]), ("workflow", ["PUBLISHED"])] }
    fieldPath (some "segments") = .ok "segments." ∧
      ∃ node, compile ⟨.subtitles, {}⟩ (some criteria) .publishedOnly {} (some "segments") =
          .ok node ∧
        (document.under "segments.").satisfies node = true ∧ document.satisfies node = false ∧
        ∀ field ∈ node.fields, ∃ name, field = "segments." ++ name := by
  intro criteria document
  let root : Node :=
    .bool [.text "content" "lubach" 1] []
      [.bool [] [.term "type" "CLIP", .term "type" "ALBUM"] [] (some 1),
        .beginning "memberOf" "urn:", .term "workflow" "PUBLISHED"] none
  have resolved : fieldPath (some "segments") = .ok "segments." := by rfl
  have compiledAtRoot : compile ⟨.subtitles, {}⟩ (some criteria) .publishedOnly {} (some "") =
      .ok root := rfl
  have compiled : compile ⟨.subtitles, {}⟩ (some criteria) .publishedOnly {} (some "segments") =
      .ok (root.under "segments.") := rfl
  have satisfied : document.satisfies root = true := by decide +kernel
  obtain ⟨_, _, moved⟩ := @satisfies_relocated ⟨.subtitles, {}⟩ "segments." .publishedOnly
    (some criteria) (some "segments") resolved
  obtain ⟨same, within⟩ := moved _ root compiled compiledAtRoot
  exact ⟨resolved, _, compiled, (same document).trans satisfied, by decide +kernel, within⟩

end Compiler

end Retrieval
