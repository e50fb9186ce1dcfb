import Retrieval.Document
import Retrieval.Query.Data
import Retrieval.Scoring.Settings

/-!
Queries with score functions. The values of the functions that apply are summed; the sum, but no
more than a maximum, multiplies the score of the query.
-/

namespace Retrieval.Scoring

open Encoded

structure Bell (α : Type) where
  field : String
  origin : String
  scale : Nat
  offset : Nat
  decay : α
  deriving Inhabited

inductive ScoreFunction (α : Type) where
  | weight (filter : Node) (amount : α)
  | bell (curve : Bell α)
  deriving Inhabited

structure FunctionScore (α : Type) where
  query : Node
  functions : List (ScoreFunction α)
  maxBoost : α
  deriving Inhabited

def Bell.valueAt (numbers : Arithmetic α) (curve : Bell α) (date now : Instant) : α :=
  numbers.bell curve.scale curve.offset curve.decay (Instant.millisBetween date now)

/-- What the function adds to the score of a document, if it applies. A document without the date
is treated like one from now. -/
def ScoreFunction.value? (numbers : Arithmetic α) (function : ScoreFunction α)
    (document : Document) (now : Instant) : Option α :=
  match function with
  | weight filter amount => if document.satisfies filter then some amount else none
  | bell curve =>
      match document.date? curve.field with
      | some date => some (curve.valueAt numbers date now)
      | none => some numbers.one

/-- The sum of the values, from the first to the last. Without any it is one, which changes
nothing. -/
def combined (numbers : Arithmetic α) : List α → α
  | [] => numbers.one
  | first :: rest => rest.foldl numbers.add first

namespace FunctionScore

def values (numbers : Arithmetic α) (wrapped : FunctionScore α) (document : Document)
    (now : Instant) : List (Option α) :=
  wrapped.functions.map fun function => function.value? numbers document now

def multiplier (numbers : Arithmetic α) (wrapped : FunctionScore α) (document : Document)
    (now : Instant) : α :=
  numbers.least (combined numbers ((wrapped.values numbers document now).filterMap id))
    wrapped.maxBoost

def score (numbers : Arithmetic α) (wrapped : FunctionScore α) (base : α) (document : Document)
    (now : Instant) : α :=
  numbers.mul base (wrapped.multiplier numbers document now)

end FunctionScore

def originNow : String := "now"

def Settings.functions (settings : Settings α) : List (ScoreFunction α) :=
  .weight (.present settings.presence.field) settings.presence.boost ::
    (settings.terms.map fun term => .weight (.term term.field term.value) term.boost) ++
    [.bell ⟨settings.decay.field, originNow, settings.decay.scale, settings.decay.offset,
      settings.decay.decay⟩]

def Settings.wrap (settings : Settings α) (query : Node) : FunctionScore α :=
  ⟨query, settings.functions, settings.maxBoost⟩

def ScoreFunction.toJson : ScoreFunction Float → Json
  | weight filter amount =>
      .record [("weight", .record [("filter", filter.toJson), ("weight", .ofReal amount)])]
  | bell curve =>
      .record [("gauss", .record [
        ("field", .text curve.field), ("origin", .text curve.origin),
        ("scale_secs", .ofNat curve.scale), ("offset_secs", .ofNat curve.offset),
        ("decay", .ofReal curve.decay)])]

def ScoreFunction.ofJson? : Json → Option (ScoreFunction Float)
  | .record [("weight", value)] => do
      let fields ← record? ["filter", "weight"] value
      return .weight (← required fields "filter" Node.ofJson?) (← required fields "weight" real?)
  | .record [("gauss", value)] => do
      let fields ← record? ["field", "origin", "scale_secs", "offset_secs", "decay"] value
      return .bell {
        field := ← required fields "field" text?
        origin := ← required fields "origin" text?
        scale := ← required fields "scale_secs" natural?
        offset := ← required fields "offset_secs" natural?
        decay := ← required fields "decay" real? }
  | _ => none

def sumMode : String := "sum"

def multiplyMode : String := "multiply"

namespace FunctionScore

def toJson (wrapped : FunctionScore Float) : Json :=
  .record [
    ("query", wrapped.query.toJson),
    ("functions", .list (wrapped.functions.map ScoreFunction.toJson)),
    ("score_mode", .text sumMode),
    ("boost_mode", .text multiplyMode),
    ("max_boost", .ofReal wrapped.maxBoost)]

def ofJson? (value : Json) : Option (FunctionScore Float) := do
  let fields ← record? ["query", "functions", "score_mode", "boost_mode", "max_boost"] value
  let _ ← required fields "score_mode" (choice? [sumMode])
  let _ ← required fields "boost_mode" (choice? [multiplyMode])
  return {
    query := ← required fields "query" Node.ofJson?
    functions := ← required fields "functions" (readList ScoreFunction.ofJson?)
    maxBoost := ← required fields "max_boost" real? }

end FunctionScore

end Retrieval.Scoring
