namespace Retrieval

inductive Node where
  | everything
  /-- The clauses of a boolean container: all of `must` and `filter`, and enough of `should`. -/
  | bool (must should filter : List Node) (minimum : Option UInt32)
  | term (field value : String)
  | beginning (field value : String)
  | present (field : String)
  /-- A text field shares a word with the query; a match counts with a weight. -/
  | text (field query : String) (boost : Float)
  deriving Inhabited

namespace Node

def isEverything : Node → Bool
  | everything => true
  | _ => false

def anyOf? : List Node → Option Node
  | [] => none
  | [node] => some node
  | nodes => some (bool [] nodes [] (some 1))

end Node

structure BoolQuery where
  must : List Node := []
  should : List Node := []
  filter : List Node := []
  minimum : Option UInt32 := none
  deriving Inhabited

namespace BoolQuery

def clauseCount (query : BoolQuery) : Nat :=
  query.must.length + query.should.length + query.filter.length

def isEmpty (query : BoolQuery) : Bool :=
  query.clauseCount == 0

def hasRequired (query : BoolQuery) : Bool :=
  !query.must.isEmpty || !query.filter.isEmpty

/-- How many optional clauses count as required: as many as are asked for, or else one if nothing
else restricts the documents. -/
def effectiveMinimum (must should filter : List Node) (minimum : Option UInt32) : UInt32 :=
  match minimum with
  | some count => count
  | none => if must.isEmpty && filter.isEmpty && !should.isEmpty then 1 else 0

def requiredOptional (query : BoolQuery) : UInt32 :=
  effectiveMinimum query.must query.should query.filter query.minimum

def asNode (query : BoolQuery) : Node :=
  .bool query.must query.should query.filter query.minimum

/-- The container as a clause. Without clauses it is every document, and a required clause that is
alone stands for itself. -/
def toNode (query : BoolQuery) : Node :=
  match query.must, query.should, query.filter with
  | [], [], [] => .everything
  | [node], [], [] => node
  | _, _, _ => query.asNode

end BoolQuery

end Retrieval
