import Retrieval.Document

namespace Retrieval

mutual

/-- Every list of optional clauses within the clause is short enough to be counted in 32 bits. -/
def Node.Countable : Node → Prop
  | .bool must should filter _ =>
      should.length < UInt32.size ∧ Node.AllCountable must ∧ Node.AllCountable should ∧
        Node.AllCountable filter
  | _ => True

def Node.AllCountable : List Node → Prop
  | [] => True
  | node :: rest => node.Countable ∧ Node.AllCountable rest

end

theorem Node.allCountable_iff {nodes : List Node} :
    Node.AllCountable nodes ↔ ∀ node ∈ nodes, node.Countable := by
  induction nodes with
  | nil => simp [Node.AllCountable]
  | cons node rest induction => simp [Node.AllCountable, induction]

theorem Node.anyOf?_eq_none_iff {options : List Node} :
    Node.anyOf? options = none ↔ options = [] := by
  unfold Node.anyOf?
  split <;> simp_all

/-- A clause that stands for several options has few of them if it is countable. -/
theorem Node.Countable.options {options : List Node} {node : Node} (countable : node.Countable)
    (found : Node.anyOf? options = some node) : options.length < UInt32.size := by
  unfold Node.anyOf? at found
  split at found
  · contradiction
  · simp [UInt32.size]
  · cases found
    exact countable.1

/-- The parts of a container are countable if it is. -/
theorem Node.Countable.parts {query : BoolQuery} (countable : query.toNode.Countable) :
    query.should.length < UInt32.size ∧ ∀ node ∈ query.must ++ query.filter, node.Countable := by
  obtain ⟨must, should, filter, minimum⟩ := query
  unfold BoolQuery.toNode at countable
  split at countable
  · simp_all
  · simp_all [UInt32.size]
  · obtain ⟨few, required, _, filters⟩ := countable
    refine ⟨few, fun node member => ?_⟩
    rcases List.mem_append.mp member with inMust | inFilter
    · exact Node.allCountable_iff.mp required node inMust
    · exact Node.allCountable_iff.mp filters node inFilter

namespace Document

variable {document : Document} {nodes : List Node} {query : BoolQuery}

theorem satisfiesAll_iff :
    document.satisfiesAll nodes = true ↔ ∀ node ∈ nodes, document.satisfies node = true := by
  rw [satisfiesAll_eq_all, List.all_eq_true]

/-- The count in 32 bits is the count as long as the clauses are few enough. -/
theorem toNat_satisfiedCount (few : nodes.length < UInt32.size) :
    (document.satisfiedCount nodes).toUInt32.toNat = nodes.countP document.satisfies := by
  have counted := List.countP_le_length (p := document.satisfies) (l := nodes)
  rw [satisfiedCount_eq_countP, Nat.toUInt32_eq, UInt32.toNat_ofNat_of_lt']
  exact Nat.lt_of_le_of_lt counted few

theorem one_le_satisfiedCount (few : nodes.length < UInt32.size) :
    1 ≤ (document.satisfiedCount nodes).toUInt32 ↔
      ∃ node ∈ nodes, document.satisfies node = true := by
  rw [UInt32.le_iff_toNat_le, toNat_satisfiedCount few, UInt32.toNat_one]
  exact List.countP_pos_iff

theorem satisfies_asNode_iff :
    document.satisfies query.asNode = true ↔
      (∀ node ∈ query.must, document.satisfies node = true) ∧
        (∀ node ∈ query.filter, document.satisfies node = true) ∧
        query.requiredOptional ≤ (document.satisfiedCount query.should).toUInt32 := by
  simp only [BoolQuery.asNode, satisfies, Bool.and_eq_true, satisfiesAll_iff, decide_eq_true_eq,
    BoolQuery.requiredOptional, and_assoc]

/-- A container that asks for optional clauses only if it has some may be written in its shorter
form. -/
theorem satisfies_toNode (asked : query.should = [] → query.minimum = none) :
    document.satisfies query.toNode = document.satisfies query.asNode := by
  obtain ⟨must, should, filter, minimum⟩ := query
  unfold BoolQuery.toNode
  split
  · rename_i noMust noShould noFilter
    obtain rfl : minimum = none := asked noShould
    simp only at noMust noShould noFilter
    subst must should filter
    rfl
  · rename_i node oneMust noShould noFilter
    obtain rfl : minimum = none := asked noShould
    simp only at oneMust noShould noFilter
    subst must should filter
    simp [BoolQuery.asNode, satisfies, satisfiesAll, BoolQuery.effectiveMinimum]
  · rfl

/-- One of several clauses holds, however it is written. -/
theorem satisfies_anyOf? {node : Node} (few : nodes.length < UInt32.size)
    (found : Node.anyOf? nodes = some node) :
    document.satisfies node = true ↔ ∃ option ∈ nodes, document.satisfies option = true := by
  unfold Node.anyOf? at found
  split at found
  · contradiction
  · cases found
    simp
  · cases found
    have container : document.satisfies (BoolQuery.asNode { should := nodes, minimum := some 1 }) =
        true ↔ _ := satisfies_asNode_iff
    rw [BoolQuery.asNode] at container
    rw [container, ← one_le_satisfiedCount few]
    simp [BoolQuery.requiredOptional, BoolQuery.effectiveMinimum]

end Document

end Retrieval
