import Retrieval.Json.Encoded
import Retrieval.Text.Blank
import Retrieval.Text.Naming

namespace Retrieval.Facet

open Encoded

inductive Direction where
  | ascending
  | descending
  deriving DecidableEq, Repr

namespace Direction

def name : Direction → String
  | ascending => "Ascending"
  | descending => "Descending"

def choices : List Direction := [ascending, descending]

end Direction

inductive Key where
  | term
  | count
  deriving DecidableEq, Repr

namespace Key

def name : Key → String
  | term => "term"
  | count => "count"

def choices : List Key := [term, count]

end Key

inductive Directive where
  | valueAscending
  | valueDescending
  | countAscending
  | countDescending
  deriving DecidableEq, Repr

namespace Directive

def name : Directive → String
  | valueAscending => "VALUE_ASC"
  | valueDescending => "VALUE_DESC"
  | countAscending => "COUNT_ASC"
  | countDescending => "COUNT_DESC"

def choices : List Directive := [valueAscending, valueDescending, countAscending, countDescending]

def ofName? (name : String) : Option Directive :=
  Text.anyCase? choices Directive.name name

def read? [Encoded ν] (value : ν) : Option Directive := do
  Text.named? choices Directive.name (← choice? (choices.map Directive.name) value)

end Directive

structure Bucket where
  value : String
  count : Nat
  deriving DecidableEq, Repr

namespace Bucket

def toJson (bucket : Bucket) : Json :=
  .record [("value", .text bucket.value), ("count", .ofNat bucket.count)]

def ofJson? (value : Json) : Option Bucket := do
  let fields ← record? ["value", "count"] value
  return ⟨← required fields "value" text?, ← required fields "count" natural?⟩

end Bucket

structure BucketOrder where
  key : Key
  direction : Direction
  deriving DecidableEq, Repr

namespace BucketOrder

def ofDirective : Option Directive → BucketOrder
  | some .valueAscending => ⟨.term, .ascending⟩
  | some .valueDescending => ⟨.term, .descending⟩
  | some .countAscending => ⟨.count, .ascending⟩
  | some .countDescending => ⟨.count, .descending⟩
  | none => ⟨.count, .descending⟩

def ofName (name : Option String) : BucketOrder :=
  ofDirective (name.bind fun name => Directive.ofName? (Text.trim name))

/-- Compares two buckets. Equal counts are ordered by term, ascending in either direction. -/
def compare (order : BucketOrder) (left right : Bucket) : Ordering :=
  match order.key, order.direction with
  | .term, .ascending => Ord.compare left.value right.value
  | .term, .descending => Ord.compare right.value left.value
  | .count, .ascending =>
      (Ord.compare left.count right.count).then (Ord.compare left.value right.value)
  | .count, .descending =>
      (Ord.compare right.count left.count).then (Ord.compare left.value right.value)

/-- Sorts buckets. Buckets that compare equal keep their order. -/
def sort (order : BucketOrder) (buckets : List Bucket) : List Bucket :=
  buckets.mergeSort fun left right => (order.compare left right).isLE

def toJson (order : BucketOrder) : Json :=
  .record [("key", .text order.key.name), ("order", .text order.direction.name)]

def ofJson? (value : Json) : Option BucketOrder := do
  let fields ← record? ["key", "order"] value
  let key := fun value => do
    Text.named? Key.choices Key.name (← choice? (Key.choices.map Key.name) value)
  let direction := fun value => do
    Text.named? Direction.choices Direction.name
      (← choice? (Direction.choices.map Direction.name) value)
  return ⟨← required fields "key" key, ← required fields "order" direction⟩

end BucketOrder

end Retrieval.Facet
