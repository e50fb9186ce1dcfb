import Retrieval.Criteria
import Retrieval.Scoring.FunctionScore

/-!
What is written down is read back. Query trees, queries with score functions and criteria come out
of the data notation as they went in: what is left out there is empty here, and no kind of clause,
function or filter is taken for another.
-/

namespace Retrieval

open Encoded

namespace Encoded

variable {ν : Type} {name other : String} {value : ν} {fields : List (String × ν)} {default : α}
  {read : ν → Option α}

@[simp] theorem required_cons_self :
    required ((name, value) :: fields) name read = read value := by
  simp [required, findNamed]

@[simp] theorem required_cons_of_ne (apart : other ≠ name) :
    required ((other, value) :: fields) name read = required fields name read := by
  simp [required, findNamed, apart]

@[simp] theorem withDefault_cons_self :
    withDefault ((name, value) :: fields) name default read = read value := by
  simp [withDefault, findNamed]

@[simp] theorem withDefault_cons_of_ne (apart : other ≠ name) :
    withDefault ((other, value) :: fields) name default read =
      withDefault fields name default read := by
  simp [withDefault, findNamed, apart]

end Encoded

namespace Json

variable {names : List String} {members : List (String × Json)}

/-- Members that are all known, each once and in the order of the names, are read as they are. -/
theorem knownMembers_of_sublist (listed : (members.map Prod.fst).Sublist names)
    (distinct : names.Nodup) : knownMembers names members = some members := by
  have known : (members.filter fun member => names.contains member.1) = members := by
    refine List.filter_eq_self.mpr fun member within => ?_
    exact List.contains_iff_mem.mpr (listed.subset (List.mem_map_of_mem within))
  rw [knownMembers, known, if_pos (distinct.sublist listed)]

theorem record?_record (listed : (members.map Prod.fst).Sublist names) (distinct : names.Nodup) :
    record? names (record members) = some members :=
  knownMembers_of_sublist listed distinct

@[simp] theorem text?_text (value : String) : Encoded.text? (text value) = some value := rfl

theorem real?_ofReal {number : Float} (finite : number.isFinite = true) :
    real? (ofReal number) = some number := by
  rw [ofReal, if_pos finite]
  rfl

theorem natural?_ofNat {number : Nat} (bounded : number < Decimal.bound64) :
    natural? (ofNat number) = some number := by
  have unsigned : Decimal.isUnsigned64 number = true := by
    simpa [Decimal.isUnsigned64] using bounded
  change (if Decimal.isUnsigned64 number then some (number : Int).toNat else none) = _
  rw [if_pos unsigned, Int.toNat_natCast]

theorem count?_ofNat (count : UInt32) : count? (ofNat count.toNat) = some count := by
  have bounded : count.toNat < Decimal.bound32 := count.toNat_lt
  have natural : natural? (ofNat count.toNat) = some count.toNat :=
    natural?_ofNat (Nat.lt_trans bounded (by decide))
  rw [count?, natural]
  simp [bounded]

theorem readList_map {encode : α → Json} {read : Json → Option α} {items : List α}
    (each : ∀ item ∈ items, read (encode item) = some item) :
    readList read (list (items.map encode)) = some items := by
  change (items.map encode).mapM read = some items
  induction items with
  | nil => rfl
  | cons item items induction =>
      obtain ⟨here, later⟩ := List.forall_mem_cons.mp each
      rw [List.map_cons, List.mapM_cons, here, induction later]
      rfl

theorem texts?_ofTexts (values : List String) : texts? (ofTexts values) = some values :=
  readList_map fun _ _ => rfl

section Depth

variable {item value : Json} {items : List Json} {name : String}

theorem depth_le_depthOfAll (member : item ∈ items) : item.depth ≤ depthOfAll items := by
  induction items with
  | nil => contradiction
  | cons first items induction =>
      rw [depthOfAll]
      rcases List.mem_cons.mp member with rfl | later
      · exact Nat.le_max_left _ _
      · exact Nat.le_trans (induction later) (Nat.le_max_right _ _)

theorem depth_le_depthOfMembers (member : (name, value) ∈ members) :
    value.depth ≤ depthOfMembers members := by
  induction members with
  | nil => contradiction
  | cons first members induction =>
      rw [depthOfMembers]
      rcases List.mem_cons.mp member with rfl | later
      · exact Nat.le_max_left _ _
      · exact Nat.le_trans (induction later) (Nat.le_max_right _ _)

end Depth

end Json

namespace Node

mutual

/-- The weights of all text clauses are finite numbers. -/
def isFinite : Node → Bool
  | bool must should filter _ => allFinite must && allFinite should && allFinite filter
  | text _ _ boost => boost.isFinite
  | _ => true

def allFinite : List Node → Bool
  | [] => true
  | node :: rest => node.isFinite && allFinite rest

end

theorem allFinite_eq_all (nodes : List Node) : allFinite nodes = nodes.all isFinite := by
  induction nodes with
  | nil => rfl
  | cons node rest induction => rw [allFinite, induction, List.all_cons]

theorem allToJson_eq_map (nodes : List Node) : allToJson nodes = nodes.map toJson := by
  induction nodes with
  | nil => rfl
  | cons node rest induction => rw [allToJson, induction, List.map_cons]

end Node

namespace BoolQuery

variable {query : BoolQuery}

def clauses (query : BoolQuery) : List Node :=
  query.must ++ query.should ++ query.filter

def isFinite (query : BoolQuery) : Bool :=
  query.clauses.all Node.isFinite

/-- The members that a container is written with. -/
def members (query : BoolQuery) : List (String × Json) :=
  Json.clauses "must" (Node.allToJson query.must) ++
    Json.clauses "should" (Node.allToJson query.should) ++
    Json.clauses "filter" (Node.allToJson query.filter) ++ Json.minimumMember query.minimum

theorem names_clauses (name : String) (items : List Json) :
    ((Json.clauses name items).map Prod.fst).Sublist [name] := by
  cases items with
  | nil => exact List.nil_sublist _
  | cons item items => exact List.Sublist.refl _

theorem names_members : (query.members.map Prod.fst).Sublist
    ["must", "should", "filter", "minimum_should_match"] := by
  have names_minimum : ((Json.minimumMember query.minimum).map Prod.fst).Sublist
      ["minimum_should_match"] := by
    cases query.minimum with
    | none => exact List.nil_sublist _
    | some count => exact List.Sublist.refl _
  simp only [members, List.map_append]
  exact (((names_clauses _ _).append (names_clauses _ _)).append (names_clauses _ _)).append
    names_minimum

theorem findNamed_append (name : String) (members others : List (String × Json)) :
    findNamed name (members ++ others) = (findNamed name members).or (findNamed name others) := by
  induction members with
  | nil => rfl
  | cons member members induction =>
      by_cases same : member.1 = name
      · simp [findNamed, same]
      · simp [findNamed, same, induction]

theorem findNamed_clauses (name other : String) (items : List Json) :
    findNamed name (Json.clauses other items) =
      if other = name ∧ items ≠ [] then some (.list items) else none := by
  cases items <;> simp [Json.clauses, findNamed]

theorem findNamed_minimumMember (name : String) (minimum : Option UInt32) :
    findNamed name (Json.minimumMember minimum) =
      if "minimum_should_match" = name then minimum.map fun count => .ofNat count.toNat
      else none := by
  cases minimum <;> simp [Json.minimumMember, findNamed]

/-- A list of clauses is written unless it is empty. -/
def written (nodes : List Node) : Option Json :=
  if nodes = [] then none else some (.list (nodes.map Node.toJson))

theorem findNamed_members :
    findNamed "must" query.members = written query.must ∧
      findNamed "should" query.members = written query.should ∧
      findNamed "filter" query.members = written query.filter ∧
      findNamed "minimum_should_match" query.members =
        query.minimum.map fun count => .ofNat count.toNat := by
  simp [members, findNamed_append, findNamed_clauses, findNamed_minimumMember, written,
    Node.allToJson_eq_map]

theorem withDefault_written {fields : List (String × Json)} {name : String} {nodes : List Node}
    {clause? : Json → Option Node} (found : findNamed name fields = written nodes)
    (each : ∀ node ∈ nodes, clause? node.toJson = some node) :
    withDefault fields name [] (readList clause?) = some nodes := by
  rw [withDefault, found]
  by_cases empty : nodes = []
  · rw [written, if_pos empty, empty]
  · rw [written, if_neg empty]
    exact Json.readList_map each

theorem optional_minimum {fields : List (String × Json)} {name : String} {minimum : Option UInt32}
    (found : findNamed name fields = minimum.map fun count => .ofNat count.toNat) :
    optional fields name Json.count? = some minimum := by
  rw [Encoded.optional, found]
  cases minimum with
  | none => rfl
  | some count =>
      change (Json.count? (.ofNat count.toNat)).map some = _
      rw [Json.count?_ofNat, Option.map_some]

/-- A container is read back if its clauses are. -/
theorem ofJsonWith?_toJson {clause? : Json → Option Node}
    (each : ∀ node ∈ query.clauses, clause? node.toJson = some node) :
    BoolQuery.ofJsonWith? clause? query.toJson = some query := by
  have fields : record? ["must", "should", "filter", "minimum_should_match"] query.toJson =
      some query.members :=
    Json.record?_record names_members (by decide)
  obtain ⟨must, should, filter, minimum⟩ := query.findNamed_members
  rw [clauses, List.forall_mem_append, List.forall_mem_append] at each
  obtain ⟨⟨eachMust, eachShould⟩, eachFilter⟩ := each
  rw [ofJsonWith?, fields]
  simp only [Option.bind_eq_bind, Option.bind_some, withDefault_written must eachMust,
    withDefault_written should eachShould, withDefault_written filter eachFilter,
    optional_minimum minimum]
  rfl

end BoolQuery

namespace Node

theorem mem_clauses_of_mem {nodes : List Node} {node : Node} (name : String)
    (member : node ∈ nodes) :
    (name, Json.list (nodes.map toJson)) ∈ Json.clauses name (allToJson nodes) := by
  cases nodes with
  | nil => contradiction
  | cons first nodes =>
      rw [allToJson_eq_map]
      exact List.mem_singleton_self _

/-- A clause is written less deep than the container that it is in. -/
theorem depth_lt_of_mem_clauses {query : BoolQuery} {node : Node} (member : node ∈ query.clauses) :
    node.toJson.depth < query.asNode.toJson.depth := by
  obtain ⟨nodes, name, within, named⟩ : ∃ (nodes : List Node) (name : String), node ∈ nodes ∧
      (name, Json.list (nodes.map toJson)) ∈ query.members := by
    simp only [BoolQuery.clauses, List.mem_append] at member
    simp only [BoolQuery.members, List.mem_append]
    rcases member with (inMust | inShould) | inFilter
    · exact ⟨_, _, inMust, .inl (.inl (.inl (mem_clauses_of_mem "must" inMust)))⟩
    · exact ⟨_, _, inShould, .inl (.inl (.inr (mem_clauses_of_mem "should" inShould)))⟩
    · exact ⟨_, _, inFilter, .inl (.inr (mem_clauses_of_mem "filter" inFilter))⟩
  have inList : node.toJson.depth ≤ Json.depthOfAll (nodes.map toJson) :=
    Json.depth_le_depthOfAll (List.mem_map_of_mem within)
  have inMembers : (Json.list (nodes.map toJson)).depth ≤ Json.depthOfMembers query.members :=
    Json.depth_le_depthOfMembers named
  have whole : query.asNode.toJson.depth = Json.depthOfMembers query.members + 2 := by
    simp [BoolQuery.asNode, toJson, Json.depth, Json.depthOfMembers, BoolQuery.members]
  rw [Json.depth] at inMembers
  omega

theorem isFinite_asNode (query : BoolQuery) : query.asNode.isFinite = query.isFinite := by
  simp [BoolQuery.asNode, isFinite, allFinite_eq_all, BoolQuery.isFinite, BoolQuery.clauses,
    Bool.and_assoc]

/-- A clause with finite weights is read back with any fuel beyond its depth. -/
theorem ofJsonWithin?_toJson {fuel : Nat} {node : Node} (finite : node.isFinite = true)
    (deep : node.toJson.depth < fuel) : Node.ofJsonWithin? fuel node.toJson = some node := by
  induction fuel generalizing node with
  | zero => exact absurd deep (Nat.not_lt_zero _)
  | succ fuel induction =>
      cases node with
      | everything => rfl
      | bool must should filter minimum =>
          let query : BoolQuery := ⟨must, should, filter, minimum⟩
          have each : ∀ node ∈ query.clauses, Node.ofJsonWithin? fuel node.toJson = some node := by
            intro node member
            rw [show bool must should filter minimum = query.asNode from rfl, isFinite_asNode,
              BoolQuery.isFinite, List.all_eq_true] at finite
            refine induction (finite node member) ?_
            exact Nat.lt_of_lt_of_le (depth_lt_of_mem_clauses member) (Nat.le_of_lt_succ deep)
          change (do
            let query ← BoolQuery.ofJsonWith? (Node.ofJsonWithin? fuel) query.toJson
            return query.asNode) = some query.asNode
          rw [BoolQuery.ofJsonWith?_toJson each]
          rfl
      | term field value => rfl
      | beginning field value => rfl
      | present field => rfl
      | text field words boost =>
          rw [toJson, Node.ofJsonWithin?, Json.record?_record]
          · simp [Json.real?_ofReal finite]
          · exact List.Sublist.refl _
          · decide

theorem ofJson?_toJson {node : Node} (finite : node.isFinite = true) :
    Node.ofJson? node.toJson = some node :=
  ofJsonWithin?_toJson finite (Nat.lt_succ_self _)

end Node

theorem BoolQuery.ofJson?_toJson {query : BoolQuery} (finite : query.isFinite = true) :
    BoolQuery.ofJson? query.toJson = some query := by
  refine ofJsonWith?_toJson fun node member => ?_
  refine Node.ofJsonWithin?_toJson (List.all_eq_true.mp finite node member) ?_
  have outer : query.asNode.toJson.depth = query.toJson.depth + 1 := by
    simp [asNode, Node.toJson, toJson, Json.depth, Json.depthOfMembers]
  exact outer ▸ Node.depth_lt_of_mem_clauses member

namespace Scoring

/-- The numbers of the curve can be written: whole ones take 64 bits, the other is finite. -/
def Bell.isExpressible (curve : Bell Float) : Bool :=
  curve.scale < Decimal.bound64 && curve.offset < Decimal.bound64 && curve.decay.isFinite

def ScoreFunction.isExpressible : ScoreFunction Float → Bool
  | weight filter amount => filter.isFinite && amount.isFinite
  | bell curve => curve.isExpressible

def FunctionScore.isExpressible (wrapped : FunctionScore Float) : Bool :=
  wrapped.query.isFinite && wrapped.functions.all ScoreFunction.isExpressible &&
    wrapped.maxBoost.isFinite

theorem ScoreFunction.ofJson?_toJson {function : ScoreFunction Float}
    (expressible : function.isExpressible = true) :
    ScoreFunction.ofJson? function.toJson = some function := by
  cases function with
  | weight filter amount =>
      obtain ⟨finiteFilter, finiteAmount⟩ := Bool.and_eq_true_iff.mp expressible
      rw [toJson, ScoreFunction.ofJson?, Json.record?_record]
      · simp [Node.ofJson?_toJson finiteFilter, Json.real?_ofReal finiteAmount]
      · exact List.Sublist.refl _
      · decide
  | bell curve =>
      simp only [isExpressible, Bell.isExpressible, Bool.and_eq_true,
        decide_eq_true_eq] at expressible
      obtain ⟨⟨boundedScale, boundedOffset⟩, finite⟩ := expressible
      rw [toJson, ScoreFunction.ofJson?, Json.record?_record]
      · -- Field by field, so that no number is looked into while the others are read.
        simp only [Option.bind_eq_bind, Option.bind_eq_some_iff]
        refine ⟨_, rfl, curve.field, ?_, curve.origin, ?_, curve.scale, ?_, curve.offset, ?_,
          curve.decay, ?_, rfl⟩
        · simp
        · simp
        · simpa using Json.natural?_ofNat boundedScale
        · simpa using Json.natural?_ofNat boundedOffset
        · simpa using Json.real?_ofReal finite
      · exact List.Sublist.refl _
      · decide

theorem FunctionScore.ofJson?_toJson {wrapped : FunctionScore Float}
    (expressible : wrapped.isExpressible = true) :
    FunctionScore.ofJson? wrapped.toJson = some wrapped := by
  obtain ⟨query, functions, maxBoost⟩ := wrapped
  simp only [isExpressible, Bool.and_eq_true, List.all_eq_true] at expressible
  obtain ⟨⟨finiteQuery, expressible⟩, finiteBoost⟩ := expressible
  have read : readList ScoreFunction.ofJson? (.list (functions.map ScoreFunction.toJson)) =
      some functions :=
    Json.readList_map fun function member =>
      ScoreFunction.ofJson?_toJson (expressible function member)
  rw [toJson, FunctionScore.ofJson?, Json.record?_record]
  · have sum : choice? [sumMode] (Json.text sumMode) = some sumMode := rfl
    have multiply : choice? [multiplyMode] (Json.text multiplyMode) = some multiplyMode := rfl
    simp [sum, multiply, Node.ofJson?_toJson finiteQuery, read,
      Json.real?_ofReal finiteBoost]
  · exact List.Sublist.refl _
  · decide

end Scoring

theorem Phrase.ofJson?_toJson (phrase : Phrase) : Phrase.ofJson? phrase.toJson = some phrase := by
  obtain ⟨value, mode⟩ := phrase
  cases mode <;> rfl

theorem Filter.ofJson?_toJson (filter : Filter) : Filter.ofJson? filter.toJson = some filter := by
  cases filter <;> rfl

theorem Criteria.ofJson?_toJson (criteria : Criteria) :
    Criteria.ofJson? criteria.toJson = some criteria := by
  obtain ⟨text, ids, types, languages, filters⟩ := criteria
  have readText : ∀ rest : List (String × Json), Encoded.optional
      (("text", Json.ofOption Phrase.toJson text) :: rest) "text" Phrase.ofJson? = some text := by
    intro rest
    cases text with
    | none => rfl
    | some phrase =>
        change (Phrase.ofJson? phrase.toJson).map some = _
        rw [Phrase.ofJson?_toJson, Option.map_some]
  have readFilters : readList Filter.ofJson? (.list (filters.map Filter.toJson)) = some filters :=
    Json.readList_map fun filter _ => Filter.ofJson?_toJson filter
  rw [toJson, Criteria.ofJson?, Json.record?_record]
  · simp [readText, Json.texts?_ofTexts, readFilters]
  · exact List.Sublist.refl _
  · decide

/-- A clause is written as a record with one member, which is named for its kind. -/
theorem Node.toJson_eq_tagged (node : Node) : ∃ kind value, node.toJson = .record [(kind, value)] ∧
    kind ∈ ["match_all", "bool", "term", "prefix", "exists", "match"] := by
  cases node <;> exact ⟨_, _, rfl, by simp⟩

theorem Scoring.ScoreFunction.toJson_eq_tagged (function : ScoreFunction Float) :
    ∃ kind value, function.toJson = .record [(kind, value)] ∧ kind ∈ ["weight", "gauss"] := by
  cases function <;> exact ⟨_, _, rfl, by simp⟩

theorem Filter.ofJson?_tagged {kind : String} (untagged : kind ≠ "kind") (value : Json) :
    Filter.ofJson? (.record [(kind, value)]) = none := by
  have passed : Json.knownMembers ["kind"] [(kind, value)] = some [] := by
    simp [Json.knownMembers, untagged]
  unfold Filter.ofJson?
  split
  · simp [passed, required, findNamed]
  · rfl

/-- Clauses, score functions and filters are not taken for one another. -/
theorem kinds_apart (node : Node) (function : Scoring.ScoreFunction Float) (filter : Filter) :
    Node.ofJson? function.toJson = none ∧ Node.ofJson? filter.toJson = none ∧
      Scoring.ScoreFunction.ofJson? node.toJson = none ∧
      Scoring.ScoreFunction.ofJson? filter.toJson = none ∧
      Filter.ofJson? node.toJson = none ∧ Filter.ofJson? function.toJson = none := by
  refine ⟨?_, ?_, ?_, ?_, ?_, ?_⟩
  · cases function <;> rfl
  · cases filter <;> rfl
  · cases node <;> rfl
  · cases filter <;> rfl
  · obtain ⟨kind, value, written, listed⟩ := node.toJson_eq_tagged
    rw [written, Filter.ofJson?_tagged]
    rintro rfl
    simp at listed
  · obtain ⟨kind, value, written, listed⟩ := function.toJson_eq_tagged
    rw [written, Filter.ofJson?_tagged]
    rintro rfl
    simp at listed

/-- What a container leaves out is what it does not have. -/
theorem BoolQuery.findNamed_eq_none_iff (query : BoolQuery) :
    (findNamed "must" query.members = none ↔ query.must = []) ∧
      (findNamed "should" query.members = none ↔ query.should = []) ∧
      (findNamed "filter" query.members = none ↔ query.filter = []) ∧
      (findNamed "minimum_should_match" query.members = none ↔ query.minimum = none) := by
  have written_eq_none_iff : ∀ nodes, written nodes = none ↔ nodes = [] := by
    intro nodes
    simp [written]
  obtain ⟨must, should, filter, minimum⟩ := query.findNamed_members
  rw [must, should, filter, minimum]
  simp [written_eq_none_iff]

/-- What is written is read back as it was: every clause and every container of finite weights, with
its empty lists and its minimum left out exactly if it has none, every query with score functions of
finite numbers, and all criteria. -/
theorem written_read_back :
    (∀ node : Node, node.isFinite = true → Node.ofJson? node.toJson = some node) ∧
      (∀ query : BoolQuery, query.isFinite = true →
        BoolQuery.ofJson? query.toJson = some query) ∧
      (∀ query : BoolQuery, ∃ members, query.toJson = .record members ∧
        (findNamed "must" members = none ↔ query.must = []) ∧
        (findNamed "should" members = none ↔ query.should = []) ∧
        (findNamed "filter" members = none ↔ query.filter = []) ∧
        (findNamed "minimum_should_match" members = none ↔ query.minimum = none)) ∧
      (∀ wrapped : Scoring.FunctionScore Float, wrapped.isExpressible = true →
        Scoring.FunctionScore.ofJson? wrapped.toJson = some wrapped) ∧
      (∀ criteria : Criteria, Criteria.ofJson? criteria.toJson = some criteria) ∧
      ∀ (node : Node) (function : Scoring.ScoreFunction Float) (filter : Filter),
        Node.ofJson? function.toJson = none ∧ Node.ofJson? filter.toJson = none ∧
          Scoring.ScoreFunction.ofJson? node.toJson = none ∧
          Scoring.ScoreFunction.ofJson? filter.toJson = none ∧
          Filter.ofJson? node.toJson = none ∧ Filter.ofJson? function.toJson = none :=
  ⟨fun _ => Node.ofJson?_toJson, fun _ => BoolQuery.ofJson?_toJson,
    fun query => ⟨query.members, rfl, query.findNamed_eq_none_iff⟩,
    fun _ => Scoring.FunctionScore.ofJson?_toJson, Criteria.ofJson?_toJson, kinds_apart⟩

/-- A minimum of zero is not taken for none, and a container without clauses not for every
document. -/
theorem boosted_news_read_back :
    let query : BoolQuery :=
      { must := [.text "titles.value" "news" 2.5],
        should := [.everything, BoolQuery.asNode { minimum := some 0 }, BoolQuery.asNode {}],
        minimum := some 0 }
    let wrapped : Scoring.FunctionScore Float :=
      ⟨query.asNode,
        [.weight (.present "image") 1.5, .bell ⟨"sortDate", "now", 864000, 86400, 0.5⟩], 10⟩
    Node.ofJson? query.asNode.toJson = some query.asNode ∧
      BoolQuery.ofJson? query.toJson = some query ∧
      Scoring.FunctionScore.ofJson? wrapped.toJson = some wrapped := by
  intro query wrapped
  obtain ⟨nodes, containers, _, wrappers, _⟩ := written_read_back
  exact ⟨nodes _ (by decide), containers _ (by decide), wrappers _ (by decide)⟩

end Retrieval
