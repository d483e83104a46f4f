import RecordFormula.Expr.Evaluate
import RecordFormula.Expr.Parse

/-!
# Formulas

A formula as its users see it: a text that is checked and evaluated against records. All this is in
one go, as described with `Expr.evaluate`: a batch takes its records one after the other, whereas a
program polls them together. For what becomes of a formula that is polled see `Query.start` and
`Call.start`; the two agree if no answer has to be waited for (`Call.agrees_start`).

* `FormulaError` — why a formula has no value;
* `Formula.fault?` — what is wrong with the text of a formula;
* `Formula.evaluate`, `Formula.evaluateEach` — its value against a record, or several.
-/

namespace RecordFormula

/-- Why a formula has no value. -/
inductive FormulaError where
  /-- The text is no formula. -/
  | unreadable (e : Expr.SyntaxError)
  /-- Its evaluation fails. -/
  | failed (e : EvalError)

/-- The text of an error. -/
def FormulaError.message : FormulaError → String
  | .unreadable e => e.message
  | .failed e => "formula evaluation failed: " ++ e.message

namespace Formula

open Enrichment (Session)

/-- What is wrong with the text of a formula, if anything is. Names of functions and fields are not
checked. -/
def fault? (formula : String) : Option String :=
  match Expr.ofText formula with
  | .ok _ => none
  | .error e => some e.message

/-- The value of a tree against a record. -/
def evaluateTree (registry : Registry) (tree : Expr) (record : Record) :
    Session (Except FormulaError Value) := do
  return (← (tree.evaluate registry record).run).mapError .failed

/-- The values of a tree against several records, one after the other. -/
def evaluateTreeEach (registry : Registry) (tree : Expr) (records : List Record) :
    Session (List (Except FormulaError Value)) := do
  return (← tree.evaluateEach registry records).map (·.mapError .failed)

/-- The value of a formula against a record. -/
def evaluate (registry : Registry) (formula : String) (record : Record) :
    Session (Except FormulaError Value) :=
  match Expr.ofText formula with
  | .error e => return .error (.unreadable e)
  | .ok tree => evaluateTree registry tree record

/-- The values of a formula against several records, one after the other. -/
def evaluateEach (registry : Registry) (formula : String) (records : List Record) :
    Session (Except Expr.SyntaxError (List (Except FormulaError Value))) := do
  match Expr.ofText formula with
  | .error e => return .error e
  | .ok tree => return .ok (← evaluateTreeEach registry tree records)

end Formula

end RecordFormula
