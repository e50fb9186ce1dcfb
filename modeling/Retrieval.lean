import Retrieval.Main
import Retrieval.Workspace
import Retrieval.Proofs.Text.Words
import Retrieval.Proofs.Query.Clauses
import Retrieval.Proofs.Query.Container
import Retrieval.Proofs.Query.Meaning
import Retrieval.Proofs.Suggestion.Contents
import Retrieval.Proofs.Suggestion.Session
import Retrieval.Proofs.Suggestion.History
import Retrieval.Proofs.Suggestion.Accounting
import Retrieval.Proofs.Suggestion.Ranking
import Retrieval.Proofs.Suggestion.Cleanup
import Retrieval.Proofs.Suggestion.Isolation
import Retrieval.Proofs.Suggestion.Beginnings
import Retrieval.Proofs.Fragment.Grouping
import Retrieval.Proofs.Query.Acceptance
import Retrieval.Proofs.Query.Fallback
import Retrieval.Proofs.Query.Restriction
import Retrieval.Proofs.Fragment.Delimiting
import Retrieval.Proofs.Query.Legibility
import Retrieval.Proofs.Query.Parts
import Retrieval.Proofs.Query.Rendering
import Retrieval.Proofs.Query.Confinement
import Retrieval.Proofs.Query.Relocation
import Retrieval.Proofs.RoundTrip
import Retrieval.Proofs.Query.WellFormed
import Retrieval.Proofs.Decimal.Binary
import Retrieval.Proofs.Scoring.Multiplier
import Retrieval.Proofs.Schedule.Service
import Retrieval.Proofs.Schedule.Session
import Retrieval.Proofs.Schedule.Accounting
import Retrieval.Proofs.Schedule.Refusal
import Retrieval.Proofs.Schedule.Upkeep
import Retrieval.Proofs.Suggestion.Settings
import Retrieval.Proofs.Suggestion.Edits
import Retrieval.Proofs.Suggestion.Lookup
import Retrieval.Proofs.Suggestion.Sweep
import Retrieval.Proofs.Suggestion.Tolerance
import Retrieval.Proofs.Query.Enrichment
import Retrieval.Proofs.Query.BlankText
import Retrieval.Proofs.Query.RequiredText
import Retrieval.Proofs.Facet
import Retrieval.Proofs.Query.LetterCase
