import RecordFormula.Enrichment.Session
import RecordFormula.EvalError
import RecordFormula.Value.Basic

/-!
# Evaluations

An evaluation is a session that gives a value or fails. What it has asked and stored before it fails
stays asked and stored.

* `Evaluation` — the computations;
* `Function` — what a name in a formula can stand for.
-/

namespace RecordFormula

open Enrichment (Session)

/-- A session that gives a result or fails. -/
abbrev Evaluation := ExceptT EvalError Session

/-- An evaluation that does nothing but give a result or fail. -/
def Evaluation.ofExcept {α : Type} (r : Except EvalError α) : Evaluation α := ExceptT.mk (pure r)

/-- A function of formulas. -/
structure Function where
  /-- May it have to wait for an answer from outside? -/
  deferred : Bool
  /-- Its value for the arguments and the record that a formula is evaluated against. -/
  apply : List Value → Record → Evaluation Value

namespace Function

/-- A function that depends on its arguments alone and never fails. -/
def pure (f : List Value → Value) : Function := ⟨false, fun args _ => Pure.pure (f args)⟩

/-- A function that depends on its arguments alone and may fail. -/
def ofExcept (f : List Value → Except EvalError Value) : Function :=
  ⟨false, fun args _ => Evaluation.ofExcept (f args)⟩

/-- A function as the first of these that is listed with those that wait. -/
def pureDeferred (f : List Value → Value) : Function := ⟨true, fun args _ => Pure.pure (f args)⟩

/-- A function that asks for an answer. -/
def asking (f : List Value → Record → Session Value) : Function :=
  ⟨true, fun args record => ExceptT.lift (f args record)⟩

end Function

end RecordFormula
