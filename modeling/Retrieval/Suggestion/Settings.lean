import Retrieval.Json.Encoded
import Retrieval.Suggestion.Similarity

namespace Retrieval.Suggestion

open Encoded

def longestTtl : Int := 10 * 365 * 24 * 3600

structure Settings where
  /-- How long an entry lives, in seconds. -/
  ttl : Int := 14 * 24 * 3600
  defaultSize : Nat := 10
  maxSize : Nat := 100
  maxEdits : Nat := 2
  fuzzyMinLength : Nat := 3
  similarity : Similarity := .uniform
  /-- The time between cleanups in seconds, half the time to live if not given. -/
  cleanupInterval : Option Nat := none
  deriving DecidableEq, Repr, Inhabited

namespace Settings

inductive Limit where
  | defaultSize
  | maxEdits
  | maxSize
  deriving DecidableEq, Repr

def Limit.name : Limit → String
  | defaultSize => "default_size"
  | maxEdits => "max_edits"
  | maxSize => "max_size"

inductive Fault where
  | ttlNotPositive (ttl : Int)
  | ttlTooLong (ttl : Int)
  /-- Limits out of their ranges, by their names in alphabetical order. -/
  | outOfRange (limits : List Limit)
  | sizeTooLarge (defaultSize maxSize : Nat)
  | cleanupOutOfRange (longest given : Nat)
  deriving DecidableEq, Repr

def Fault.message : Fault → String
  | ttlNotPositive ttl => "suggestion TTL must be positive, got " ++ toString ttl ++ "s"
  | ttlTooLong ttl =>
      "suggestion TTL must be at most " ++ toString longestTtl ++ "s, got " ++ toString ttl ++ "s"
  | outOfRange limits =>
      "\n".intercalate (limits.map fun limit => limit.name ++ ": Validation error: range")
  | sizeTooLarge defaultSize maxSize =>
      "default_size " ++ toString defaultSize ++ " exceeds max_size " ++ toString maxSize
  | cleanupOutOfRange longest given =>
      "cleanup interval must be between 1s and half the TTL (" ++ toString longest ++
        "s), got " ++ toString given ++ "s"

/-- The time to live in seconds, none if it is negative. -/
def ttlSeconds (settings : Settings) : Nat :=
  settings.ttl.toNat

/-- The longest time between cleanups: half the time to live, but at least a second. -/
def longestCleanup (settings : Settings) : Nat :=
  max (settings.ttlSeconds / 2) 1

def cleanupSeconds (settings : Settings) : Nat :=
  settings.cleanupInterval.getD settings.longestCleanup

def effectiveSize (settings : Settings) (size : Option Nat) : Nat :=
  min (size.getD settings.defaultSize) settings.maxSize

def inRange (settings : Settings) : Limit → Bool
  | .defaultSize => 1 ≤ settings.defaultSize
  | .maxEdits => settings.maxEdits ≤ 2
  | .maxSize => 1 ≤ settings.maxSize

def limitsOutOfRange (settings : Settings) : List Limit :=
  [.defaultSize, .maxEdits, .maxSize].filter fun limit => !settings.inRange limit

def check (settings : Settings) : Except Fault Unit := do
  if settings.ttl ≤ 0 then
    throw (.ttlNotPositive settings.ttl)
  if longestTtl < settings.ttl then
    throw (.ttlTooLong settings.ttl)
  if !settings.limitsOutOfRange.isEmpty then
    throw (.outOfRange settings.limitsOutOfRange)
  if settings.maxSize < settings.defaultSize then
    throw (.sizeTooLarge settings.defaultSize settings.maxSize)
  match settings.cleanupInterval with
  | some interval =>
      if interval = 0 ∨ settings.longestCleanup < interval then
        throw (.cleanupOutOfRange settings.longestCleanup interval)
  | none => pure ()

def toJson (settings : Settings) : Json :=
  .record [
    ("ttl_secs", .integer settings.ttl),
    ("default_size", .ofNat settings.defaultSize),
    ("max_size", .ofNat settings.maxSize),
    ("max_edits", .ofNat settings.maxEdits),
    ("fuzzy_min_length", .ofNat settings.fuzzyMinLength),
    ("similarity", .text settings.similarity.name),
    ("cleanup_interval_secs", .ofOption .ofNat settings.cleanupInterval)]

def read? [Encoded ν] (value : ν) : Option Settings := do
  let standard : Settings := {}
  let fields ← record? ["ttl_secs", "default_size", "max_size", "max_edits", "fuzzy_min_length",
    "similarity", "cleanup_interval_secs"] value
  return {
    ttl := ← withDefault fields "ttl_secs" standard.ttl integer?
    defaultSize := ← withDefault fields "default_size" standard.defaultSize natural?
    maxSize := ← withDefault fields "max_size" standard.maxSize natural?
    maxEdits := ← withDefault fields "max_edits" standard.maxEdits natural?
    fuzzyMinLength := ← withDefault fields "fuzzy_min_length" standard.fuzzyMinLength natural?
    similarity := ← withDefault fields "similarity" standard.similarity Similarity.read?
    cleanupInterval := ← optional fields "cleanup_interval_secs" natural? }

end Settings

end Retrieval.Suggestion
