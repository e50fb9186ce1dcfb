import Retrieval.Decimal.Layout
import Retrieval.Json.Encoded
import Retrieval.Scoring.Arithmetic
import Retrieval.Text.Blank

namespace Retrieval.Scoring

open Encoded

structure PresenceBoost (α : Type) where
  field : String
  boost : α
  deriving Inhabited

structure TermBoost (α : Type) where
  field : String
  value : String
  boost : α
  deriving Inhabited

structure DateDecay (α : Type) where
  field : String
  /-- How far beyond the offset the boost has fallen to `decay`, in seconds. -/
  scale : Nat
  /-- How far from now the boost is whole, in seconds. -/
  offset : Nat
  decay : α
  deriving Inhabited

structure Settings (α : Type) where
  presence : PresenceBoost α
  terms : List (TermBoost α)
  decay : DateDecay α
  maxBoost : α
  deriving Inhabited

inductive Fault (α : Type) where
  | blankBoostField
  | unusableBoost (field : String) (boost : α)
  | blankTerm (field : String)
  | blankDecayField
  | noScale
  | unusableDecay (decay : α)
  | unusableMaximum (maximum : α)

def Fault.message : Fault Float → String
  | blankBoostField => "boost field must not be blank"
  | unusableBoost field boost =>
      "boost on '" ++ field ++ "' must be a non-negative number, got " ++
        Decimal.shortestText Decimal.proseLayout boost
  | blankTerm field => "term boost on '" ++ field ++ "' has a blank value"
  | blankDecayField => "decay field must not be blank"
  | noScale => "decay scale must be positive"
  | unusableDecay decay =>
      "decay must be strictly between 0 and 1, got " ++
        Decimal.shortestText Decimal.proseLayout decay
  | unusableMaximum maximum =>
      "max_boost must be positive, got " ++ Decimal.shortestText Decimal.proseLayout maximum

namespace Settings

def standard : Settings Float where
  presence := ⟨"locations.programUrl", 1.5⟩
  terms := [⟨"type", "BROADCAST", 1.25⟩, ⟨"avType", "VIDEO", 1.1⟩]
  decay := ⟨"sortDate", 30 * 24 * 3600, 7 * 24 * 3600, 0.5⟩
  maxBoost := 4

def checkBoost (numbers : Arithmetic α) (field : String) (boost : α) : Except (Fault α) Unit := do
  if Text.isBlank field then
    throw .blankBoostField
  if !numbers.isFinite boost || numbers.less boost numbers.zero then
    throw (.unusableBoost field boost)

def checkTerm (numbers : Arithmetic α) (term : TermBoost α) : Except (Fault α) Unit := do
  checkBoost numbers term.field term.boost
  if Text.isBlank term.value then
    throw (.blankTerm term.field)

def checkDecay (numbers : Arithmetic α) (decay : DateDecay α) : Except (Fault α) Unit := do
  if Text.isBlank decay.field then
    throw .blankDecayField
  if decay.scale = 0 then
    throw .noScale
  if !(numbers.less numbers.zero decay.decay && numbers.less decay.decay numbers.one) then
    throw (.unusableDecay decay.decay)

def check (numbers : Arithmetic α) (settings : Settings α) : Except (Fault α) Unit := do
  checkBoost numbers settings.presence.field settings.presence.boost
  settings.terms.forM (checkTerm numbers)
  checkDecay numbers settings.decay
  if !(numbers.isFinite settings.maxBoost && numbers.less numbers.zero settings.maxBoost) then
    throw (.unusableMaximum settings.maxBoost)

def toJson (settings : Settings Float) : Json :=
  .record [
    ("existence", .record [
      ("field", .text settings.presence.field), ("boost", .ofReal settings.presence.boost)]),
    ("term_boosts", .list (settings.terms.map fun term => .record [
      ("field", .text term.field), ("value", .text term.value), ("boost", .ofReal term.boost)])),
    ("decay", .record [
      ("field", .text settings.decay.field), ("scale_secs", .ofNat settings.decay.scale),
      ("offset_secs", .ofNat settings.decay.offset), ("decay", .ofReal settings.decay.decay)]),
    ("max_boost", .ofReal settings.maxBoost)]

def readPresence? [Encoded ν] (value : ν) : Option (PresenceBoost Float) := do
  let fields ← record? ["field", "boost"] value
  return ⟨← required fields "field" text?, ← required fields "boost" real?⟩

def readTerm? [Encoded ν] (value : ν) : Option (TermBoost Float) := do
  let fields ← record? ["field", "value", "boost"] value
  return ⟨← required fields "field" text?, ← required fields "value" text?,
    ← required fields "boost" real?⟩

def readDecay? [Encoded ν] (value : ν) : Option (DateDecay Float) := do
  let fields ← record? ["field", "scale_secs", "offset_secs", "decay"] value
  return ⟨← required fields "field" text?, ← required fields "scale_secs" natural?,
    ← withDefault fields "offset_secs" 0 natural?, ← required fields "decay" real?⟩

def read? [Encoded ν] (value : ν) : Option (Settings Float) := do
  let fields ← record? ["existence", "term_boosts", "decay", "max_boost"] value
  return {
    presence := ← withDefault fields "existence" standard.presence readPresence?
    terms := ← withDefault fields "term_boosts" standard.terms (readList readTerm?)
    decay := ← withDefault fields "decay" standard.decay readDecay?
    maxBoost := ← withDefault fields "max_boost" standard.maxBoost real? }

end Settings

end Retrieval.Scoring
