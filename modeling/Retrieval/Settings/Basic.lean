import Retrieval.Failure

namespace Retrieval

open Encoded

structure Logging where
  level : String := "info"
  json : Bool := false
  deriving DecidableEq, Repr, Inhabited

namespace Logging

def toJson (logging : Logging) : Json :=
  .record [("log_level", .text logging.level), ("json_logs", .boolean logging.json)]

def read? [Encoded ν] (value : ν) : Option Logging := do
  let standard : Logging := {}
  let fields ← record? ["log_level", "json_logs"] value
  return {
    level := ← withDefault fields "log_level" standard.level text?
    json := ← withDefault fields "json_logs" standard.json boolean? }

end Logging

structure Settings where
  search : SearchSettings := {}
  scoring : Scoring.Settings Float := Scoring.Settings.standard
  suggestions : Suggestion.Settings := {}
  schedule : Schedule.Settings := {}
  logging : Logging := {}
  deriving Inhabited

namespace Settings

/-- Checks one section after the other. The first fault is the one that is reported. -/
def check (settings : Settings) : Except Failure Unit := do
  settings.search.check.mapError .fields
  (settings.scoring.check .floating).mapError .scoring
  settings.suggestions.check.mapError .suggestions
  if Text.isBlank settings.logging.level then
    throw (.settings .blankLogLevel)
  if settings.schedule.jobTimeout = 0 then
    throw (.settings .noJobTimeout)

def toJson (settings : Settings) : Json :=
  .record [
    ("search", settings.search.toJson),
    ("scoring", settings.scoring.toJson),
    ("suggest", settings.suggestions.toJson),
    ("scheduler", settings.schedule.toJson),
    ("observability", settings.logging.toJson)]

def read? [Encoded ν] (value : ν) : Option Settings := do
  let standard : Settings := {}
  let fields ← record? ["search", "scoring", "suggest", "scheduler", "observability"] value
  return {
    search := ← withDefault fields "search" standard.search SearchSettings.read?
    scoring := ← withDefault fields "scoring" standard.scoring Scoring.Settings.read?
    suggestions := ← withDefault fields "suggest" standard.suggestions Suggestion.Settings.read?
    schedule := ← withDefault fields "scheduler" standard.schedule Schedule.Settings.read?
    logging := ← withDefault fields "observability" standard.logging Logging.read? }

end Settings

end Retrieval
