import Retrieval.Filter

namespace Retrieval

open Encoded

inductive MatchMode where
  | should
  | must
  deriving DecidableEq, Repr, Inhabited

namespace MatchMode

def name : MatchMode → String
  | should => "SHOULD"
  | must => "MUST"

def choices : List MatchMode := [should, must]

def ofName? (name : String) : Option MatchMode :=
  Text.anyCase? choices MatchMode.name name

def read? [Encoded ν] (value : ν) : Option MatchMode := do
  Text.named? choices MatchMode.name (← choice? (choices.map MatchMode.name) value)

end MatchMode

structure Phrase where
  value : String
  mode : MatchMode := .should
  deriving DecidableEq, Repr, Inhabited

namespace Phrase

def lengthLimit : Nat := 1024

/-- Blank text is treated like no text. -/
def isBlank (phrase : Phrase) : Bool :=
  Text.isBlank phrase.value

def toJson (phrase : Phrase) : Json :=
  .record [("value", .text phrase.value), ("matchMode", .text phrase.mode.name)]

def ofJson? (value : Json) : Option Phrase := do
  let fields ← record? ["value", "matchMode"] value
  return {
    value := ← required fields "value" text?
    mode := ← withDefault fields "matchMode" .should MatchMode.read? }

end Phrase

inductive Category where
  | ids
  | types
  | languages
  deriving DecidableEq, Repr

def Category.name : Category → String
  | ids => "ids"
  | types => "types"
  | languages => "languages"

def Category.choices : List Category := [ids, types, languages]

structure Criteria where
  text : Option Phrase := none
  ids : List String := []
  types : List String := []
  languages : List String := []
  filters : List Filter := []
  deriving DecidableEq, Repr, Inhabited

namespace Criteria

inductive Fault where
  | blankValues (lists : List Category)
  | overlongText
  | tooManyValues (list : Category) (given allowed : Nat)
  | tooManyFilters (given allowed : Nat)
  | filter (fault : Filter.Fault)
  deriving DecidableEq, Repr

def Fault.message : Fault → String
  | blankValues lists =>
      "\n".intercalate
        (lists.map fun list => list.name ++ ": constraint lists must not contain blank values")
  | overlongText => "value: Validation error: length"
  | tooManyValues list given allowed =>
      list.name ++ " has " ++ toString given ++ " values, at most " ++ toString allowed ++
        " allowed"
  | tooManyFilters given allowed =>
      toString given ++ " field filters given, at most " ++ toString allowed ++ " allowed"
  | filter fault => fault.message

def values (criteria : Criteria) : Category → List String
  | .ids => criteria.ids
  | .types => criteria.types
  | .languages => criteria.languages

def phrase? (criteria : Criteria) : Option Phrase :=
  criteria.text.filter fun phrase => !phrase.isBlank

def isEmpty (criteria : Criteria) : Bool :=
  criteria.phrase?.isNone && criteria.ids.isEmpty && criteria.types.isEmpty &&
    criteria.languages.isEmpty && criteria.filters.isEmpty

def blankLists (criteria : Criteria) : List Category :=
  [.ids, .languages, .types].filter fun list => (criteria.values list).any Text.isBlank

/-- Refuses malformed criteria and those with more values or filters than are allowed. Of several
faults the first in this order is reported: blank values, overlong text, long lists, too many
filters, faulty filters. -/
def check (criteria : Criteria) (allowed : Nat) : Except Fault Unit := do
  if !criteria.blankLists.isEmpty then
    throw (.blankValues criteria.blankLists)
  if criteria.text.any fun phrase => Phrase.lengthLimit < phrase.value.length then
    throw .overlongText
  match Category.choices.find? fun list => allowed < (criteria.values list).length with
  | some list => throw (.tooManyValues list (criteria.values list).length allowed)
  | none => pure ()
  if allowed < criteria.filters.length then
    throw (.tooManyFilters criteria.filters.length allowed)
  criteria.filters.forM fun filter => filter.check.mapError .filter

def addDistinct [BEq α] (list values : List α) : List α :=
  values.foldl (fun list value => if list.contains value then list else list ++ [value]) list

def withText (criteria : Criteria) (phrase : Phrase) : Criteria :=
  { criteria with text := some phrase }

def withValues (criteria : Criteria) (values : List String) : Category → Criteria
  | .ids => { criteria with ids := addDistinct criteria.ids values }
  | .types => { criteria with types := addDistinct criteria.types values }
  | .languages => { criteria with languages := addDistinct criteria.languages values }

def withFilter (criteria : Criteria) (filter : Filter) : Criteria :=
  { criteria with filters := addDistinct criteria.filters [filter] }

def toJson (criteria : Criteria) : Json :=
  .record [
    ("text", .ofOption Phrase.toJson criteria.text),
    ("ids", .ofTexts criteria.ids),
    ("types", .ofTexts criteria.types),
    ("languages", .ofTexts criteria.languages),
    ("filters", .list (criteria.filters.map Filter.toJson))]

def ofJson? (value : Json) : Option Criteria := do
  let fields ← record? ["text", "ids", "types", "languages", "filters"] value
  return {
    text := ← optional fields "text" Phrase.ofJson?
    ids := ← withDefault fields "ids" [] texts?
    types := ← withDefault fields "types" [] texts?
    languages := ← withDefault fields "languages" [] texts?
    filters := ← withDefault fields "filters" [] (readList Filter.ofJson?) }

end Criteria

end Retrieval
