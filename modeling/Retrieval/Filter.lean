import Retrieval.Directory
import Retrieval.Fragment.Grouping
import Retrieval.Fragment.Quoting
import Retrieval.Json.Encoded
import Retrieval.Query.Node

namespace Retrieval

open Encoded

inductive Filter where
  | equals (field value : String)
  | startsWith (field value : String)
  | present (field : String)
  deriving DecidableEq, Repr, Inhabited

namespace Filter

inductive Fault where
  | unnamedField
  | blankValue (field : String)
  deriving DecidableEq, Repr

def Fault.message : Fault → String
  | unnamedField => "field filter without field name"
  | blankValue field => "field filter on '" ++ field ++ "' has a blank value"

def field : Filter → String
  | equals field _ => field
  | startsWith field _ => field
  | present field => field

def value? : Filter → Option String
  | equals _ value => some value
  | startsWith _ value => some value
  | present _ => none

def check (filter : Filter) : Except Fault Unit :=
  if Text.isBlank filter.field then
    throw .unnamedField
  else if filter.value?.any Text.isBlank then
    throw (.blankValue filter.field)
  else
    return

def toNode (filter : Filter) (name : String) : Node :=
  match filter with
  | equals _ value => .term name value
  | startsWith _ value => .beginning name value
  | present _ => .present name

def toText (filter : Filter) (name : String) : String :=
  match filter with
  | equals _ value => name ++ ":" ++ Fragment.quote value
  | startsWith _ value => name ++ ":" ++ Fragment.escape value ++ "*"
  | present _ => "_exists_:" ++ name

abbrev Aliases := Directory String

def resolve (aliases : Aliases) (path field : String) : String :=
  path ++ (aliases.find? field).getD field

def node (aliases : Aliases) (path : String) (filter : Filter) : Except Fault Node := do
  filter.check
  return filter.toNode (resolve aliases path filter.field)

def text (aliases : Aliases) (path : String) (filter : Filter) : Except Fault String := do
  filter.check
  return filter.toText (resolve aliases path filter.field)

/-- The clauses of some filters. The first faulty filter is the one that is refused. -/
def nodes (aliases : Aliases) (path : String) (filters : List Filter) :
    Except Fault (List Node) :=
  filters.mapM (node aliases path)

def fragment? (aliases : Aliases) (operator : Operator) (path : String) (filters : List Filter) :
    Except Fault (Option Fragment) := do
  if filters.isEmpty then
    return none
  let parts ← filters.mapM (text aliases path)
  return some ((Fragment.Grouping.undeclared operator).appendAll parts).close.build

def toJson : Filter → Json
  | equals field value =>
      .record [("kind", .text "exact"), ("field", .text field), ("value", .text value)]
  | startsWith field value =>
      .record [("kind", .text "prefix"), ("field", .text field), ("value", .text value)]
  | present field => .record [("kind", .text "exists"), ("field", .text field)]

def ofKind? (kind : String) (fields : List String → Option (List (String × Json))) :
    Option Filter := do
  match kind with
  | "exact" =>
      let fields ← fields ["field", "value"]
      return .equals (← required fields "field" text?) (← required fields "value" text?)
  | "prefix" =>
      let fields ← fields ["field", "value"]
      return .startsWith (← required fields "field" text?) (← required fields "value" text?)
  | "exists" =>
      let fields ← fields ["field"]
      return .present (← required fields "field" text?)
  | _ => none

/-- How deep a value may lie inside a filter. Members of a filter are read in full before its kind
is known, even those that are then passed over. -/
def depthLimit : Nat := 125

/-- Reads a filter: its kind is one of its members, in any place, or the first item of a list. -/
def ofJson? (value : Json) : Option Filter :=
  if value.isReadable && value.depth ≤ depthLimit then
    match value with
    | .record members => do
        let kind ← required (← Json.knownMembers ["kind"] members) "kind" text?
        ofKind? kind fun names => Json.knownMembers names members
    | .list (kind :: items) => do
        ofKind? (← text? kind) fun names => Json.positionalMembers names items
    | _ => none
  else
    none

end Filter

end Retrieval
