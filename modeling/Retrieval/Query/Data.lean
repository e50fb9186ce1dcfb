import Retrieval.Json.Encoded
import Retrieval.Query.Node

/-!
Query trees in the data notation. A clause is a record with one member, named for its kind; a
container leaves out its empty lists and a missing minimum.
-/

namespace Retrieval

open Encoded

def Json.clauses (name : String) : List Json → List (String × Json)
  | [] => []
  | nodes => [(name, .list nodes)]

def Json.minimumMember : Option UInt32 → List (String × Json)
  | none => []
  | some count => [("minimum_should_match", .ofNat count.toNat)]

mutual

def Node.toJson : Node → Json
  | .everything => .record [("match_all", .record [])]
  | .bool must should filter minimum =>
      .record [("bool", .record (
        Json.clauses "must" (Node.allToJson must) ++
          Json.clauses "should" (Node.allToJson should) ++
          Json.clauses "filter" (Node.allToJson filter) ++ Json.minimumMember minimum))]
  | .term field value =>
      .record [("term", .record [("field", .text field), ("value", .text value)])]
  | .beginning field value =>
      .record [("prefix", .record [("field", .text field), ("value", .text value)])]
  | .present field => .record [("exists", .record [("field", .text field)])]
  | .text field query boost =>
      .record [("match", .record
        [("field", .text field), ("query", .text query), ("boost", .ofReal boost)])]

def Node.allToJson : List Node → List Json
  | [] => []
  | node :: rest => node.toJson :: Node.allToJson rest

end

def BoolQuery.toJson (query : BoolQuery) : Json :=
  .record (
    Json.clauses "must" (Node.allToJson query.must) ++
      Json.clauses "should" (Node.allToJson query.should) ++
      Json.clauses "filter" (Node.allToJson query.filter) ++ Json.minimumMember query.minimum)

def Json.count? (value : Json) : Option UInt32 := do
  let number ← natural? value
  if number < Decimal.bound32 then some number.toUInt32 else none

def BoolQuery.ofJsonWith? (clause? : Json → Option Node) (value : Json) : Option BoolQuery := do
  let fields ← record? ["must", "should", "filter", "minimum_should_match"] value
  let clauses (name : String) : Option (List Node) :=
    withDefault fields name [] (readList clause?)
  return {
    must := ← clauses "must"
    should := ← clauses "should"
    filter := ← clauses "filter"
    minimum := ← optional fields "minimum_should_match" Json.count? }

/-- Reads a clause of at most the given depth. -/
def Node.ofJsonWithin? : Nat → Json → Option Node
  | fuel + 1, .record [(kind, value)] =>
      match kind with
      | "match_all" => do
          let _ ← record? [] value
          return .everything
      | "bool" => do
          let query ← BoolQuery.ofJsonWith? (Node.ofJsonWithin? fuel) value
          return query.asNode
      | "term" => do
          let fields ← record? ["field", "value"] value
          return .term (← required fields "field" text?) (← required fields "value" text?)
      | "prefix" => do
          let fields ← record? ["field", "value"] value
          return .beginning (← required fields "field" text?) (← required fields "value" text?)
      | "exists" => do
          let fields ← record? ["field"] value
          return .present (← required fields "field" text?)
      | "match" => do
          let fields ← record? ["field", "query", "boost"] value
          return .text (← required fields "field" text?) (← required fields "query" text?)
            (← required fields "boost" real?)
      | _ => none
  | _, _ => none

/-- Reads a clause. The value is at least as deep as the clause. -/
def Node.ofJson? (value : Json) : Option Node :=
  Node.ofJsonWithin? (value.depth + 1) value

def BoolQuery.ofJson? (value : Json) : Option BoolQuery :=
  BoolQuery.ofJsonWith? (Node.ofJsonWithin? (value.depth + 1)) value

end Retrieval
