import RecordFormula.Formula
import RecordFormula.Function.Standard
import RecordFormula.Json.Reading
import RecordFormula.Proofs.Calendar.Elapsed
import RecordFormula.Proofs.Calendar.Shifts
import RecordFormula.Proofs.Enrichment.Atomicity
import RecordFormula.Proofs.Enrichment.Keys
import RecordFormula.Proofs.Enrichment.Provenance
import RecordFormula.Proofs.Enrichment.Recency
import RecordFormula.Proofs.Enrichment.Scores
import RecordFormula.Proofs.Evaluation.Dependencies
import RecordFormula.Proofs.Evaluation.Eager
import RecordFormula.Proofs.Evaluation.Failures
import RecordFormula.Proofs.Evaluation.LetterCase
import RecordFormula.Proofs.Evaluation.Padding
import RecordFormula.Proofs.Function.Addresses
import RecordFormula.Proofs.Function.Extremes
import RecordFormula.Proofs.Function.Gathering
import RecordFormula.Proofs.Function.Names
import RecordFormula.Proofs.Function.Parts
import RecordFormula.Proofs.Function.Replacing
import RecordFormula.Proofs.Polling.Agreement
import RecordFormula.Proofs.Polling.Provenance
import RecordFormula.Proofs.Polling.Repetition
import RecordFormula.Proofs.Polling.Transparency
import RecordFormula.Proofs.Syntax.Blanks
import RecordFormula.Proofs.Syntax.Refusal
import RecordFormula.Proofs.Syntax.Rereading
import RecordFormula.Proofs.Value.Coercion
import RecordFormula.Proofs.Value.Equality
import RecordFormula.Proofs.Value.Exchange
import RecordFormula.Proofs.Value.Numerals
import RecordFormula.Settings
import RecordFormula.Value.Wire
