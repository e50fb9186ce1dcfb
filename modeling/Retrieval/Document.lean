import Retrieval.Json.Encoded
import Retrieval.Query.Node
import Retrieval.Text.Words
import Retrieval.Timestamp

namespace Retrieval

open Encoded

structure Document where
  id : String
  fields : Directory (List String) := .empty
  dates : Directory Instant := .empty
  deriving Inhabited

namespace Document

def values (document : Document) (field : String) : List String :=
  (document.fields.find? field).getD []

def date? (document : Document) (field : String) : Option Instant :=
  document.dates.find? field

def holds (document : Document) (field value : String) : Bool :=
  (document.values field).any fun held => held == value

def holdsBeginning (document : Document) (field value : String) : Bool :=
  (document.values field).any fun held => value.toList.isPrefixOf held.toList

def has (document : Document) (field : String) : Bool :=
  (document.values field).any (fun held => !held.isEmpty) || (document.date? field).isSome

def sharesWord (document : Document) (field query : String) : Bool :=
  let wanted := Text.words query
  ((document.values field).flatMap Text.words).any fun word => wanted.contains word

mutual

/-- The document matches the clause. The optional clauses that it matches are counted in 32 bits. -/
def satisfies (document : Document) : Node → Bool
  | .everything => true
  | .bool must should filter minimum =>
      document.satisfiesAll must && document.satisfiesAll filter &&
        BoolQuery.effectiveMinimum must should filter minimum ≤
          (document.satisfiedCount should).toUInt32
  | .term field value => document.holds field value
  | .beginning field value => document.holdsBeginning field value
  | .present field => document.has field
  | .text field query _ => document.sharesWord field query

def satisfiesAll (document : Document) : List Node → Bool
  | [] => true
  | node :: rest => document.satisfies node && document.satisfiesAll rest

def satisfiedCount (document : Document) : List Node → Nat
  | [] => 0
  | node :: rest => (if document.satisfies node then 1 else 0) + document.satisfiedCount rest

end

theorem satisfiesAll_eq_all (document : Document) (nodes : List Node) :
    document.satisfiesAll nodes = nodes.all document.satisfies := by
  induction nodes with
  | nil => rfl
  | cons node rest induction => simp [satisfiesAll, induction]

theorem satisfiedCount_eq_countP (document : Document) (nodes : List Node) :
    document.satisfiedCount nodes = nodes.countP document.satisfies := by
  induction nodes with
  | nil => rfl
  | cons node rest induction => simp [satisfiedCount, induction, List.countP_cons, Nat.add_comm]

def readInstant? [Encoded ν] (value : ν) : Option Instant := do
  Timestamp.parse? (← text? value)

def ofJson? (value : Json) : Option Document := do
  let fields ← record? ["id", "fields", "dates"] value
  return {
    id := ← required fields "id" text?
    fields := ← withDefault fields "fields" .empty (directory? texts?)
    dates := ← withDefault fields "dates" .empty (directory? readInstant?) }

end Document

end Retrieval
