import RecordFormula.Proofs.Enrichment.Formulas
import RecordFormula.Proofs.Evaluation.Outcomes
import RecordFormula.Proofs.Syntax.Legible

/-!
# How a formula can fail

An evaluation with the standard functions fails for few reasons, and each of them shows in the tree.
Neither the provider nor the cache is among them: what cannot be had is replaced by a fallback.

* `Function.Shape.failsOnly` — which functions fail, and how.
* `Expr.Accounts` — the failures that a tree accounts for, each by one of its nodes.
* **Every failure is accounted for** (`Expr.failsOnly_evaluate`), and the tree of a formula
  accounts for few (`Expr.Accounts.of_ofText`).
* **A formula is unreadable exactly if its text is faulty** (`Formula.fault?_eq_some_iff`).
* **The outcomes of a formula** (`Formula.evaluate_outcome`): a fault of the text exactly if the
  text is faulty, else a value, or a failure that the tree accounts for.
-/

namespace RecordFormula

open Enrichment (Environment Store)

/-! ### Operators and functions -/

/-- The only operator that fails is division, by zero. -/
theorem Operator.of_apply_eq_error {op : Operator} {a b : Value} {e : EvalError}
    (h : op.apply a b = .error e) : op = .divide ∧ e = .divisionByZero := by
  cases op
  case divide =>
    simp only [apply] at h
    split_ifs at h
    exact ⟨rfl, (Except.error.inj h).symm⟩
  all_goals cases h

/-- Replacing fails only because the pattern is too large. -/
theorem Texts.of_replace_eq_error {args : List Value} {e : EvalError}
    (h : replace args = .error e) : e = .functionFailed "REPLACE" patternTooLarge := by
  have hall : ∀ text pattern replacement : String,
      replaceAll text pattern replacement = .error e →
        e = .functionFailed "REPLACE" patternTooLarge := by
    intro text pattern replacement hreplace
    unfold replaceAll at hreplace
    split_ifs at hreplace
    split at hreplace
    · cases hreplace
    · exact (Except.error.inj hreplace).symm
  unfold replace at h
  cases hreplace : replaceAll (Arguments.text args 0) (Arguments.text args 1)
      (Arguments.text args 2) with
  | ok s =>
    rw [hreplace] at h
    cases h
  | error e' =>
    rw [hreplace] at h
    cases h
    exact hall _ _ _ hreplace

/-- A function that fails is `REPLACE`, and its pattern is too large. -/
theorem Function.Shape.failsOnly {name : String} {f : Function} (h : Shape name f)
    (args : List Value) (record : Record) :
    (f.apply args record).FailsOnly fun e =>
      name = "REPLACE" ∧ e = .functionFailed "REPLACE" Texts.patternTooLarge := by
  cases h with
  | pure name g => exact .pure (g args)
  | pureDeferred name g => exact .pure (g args)
  | replace => exact .ofExcept fun e he => ⟨rfl, Texts.of_replace_eq_error he⟩
  | now => exact .lift _
  | today => exact .lift _
  | asking name g => exact .lift (g args)
  | score => exact .lift (Leads.score args record)

/-! ### Trees -/

namespace Expr

open Evaluation (FailsOnly)

/-- The failures that a tree accounts for, each by one of its nodes. -/
inductive Accounts (t : Expr) : EvalError → Prop
  /-- It divides. -/
  | divisionByZero {left right} (h : binary .divide left right ∈ t.nodes) :
    Accounts t .divisionByZero
  /-- It calls a function that there is not. -/
  | unknownFunction {name args} (h : call name args ∈ t.nodes) (hif : Text.upper name ≠ "IF")
      (hfind : Registry.standard.find? name = none) :
    Accounts t (.unknownFunction (Text.upper name))
  /-- It replaces matches of a pattern. -/
  | patternTooLarge {name args} (h : call name args ∈ t.nodes)
      (hname : Text.upper name = "REPLACE") :
    Accounts t (.functionFailed "REPLACE" Texts.patternTooLarge)
  /-- It has a constant that no formula can spell. -/
  | malformedLiteral {value} (h : literal value ∈ t.nodes) (hvalue : isSpellable value = false) :
    Accounts t (.malformedLiteral value)

/-- A larger tree accounts for more. -/
theorem Accounts.mono {s t : Expr} (hst : s.nodes ⊆ t.nodes) {e : EvalError} (h : s.Accounts e) :
    t.Accounts e := by
  cases h with
  | divisionByZero h => exact .divisionByZero (hst h)
  | unknownFunction h hif hfind => exact .unknownFunction (hst h) hif hfind
  | patternTooLarge h hname => exact .patternTooLarge (hst h) hname
  | malformedLiteral h hvalue => exact .malformedLiteral (hst h) hvalue

/-- **Every failure of a tree is one that it accounts for.** -/
theorem failsOnly_evaluate (record : Record) (t : Expr) :
    (evaluate .standard record t).FailsOnly t.Accounts := by
  induction t using induct with
  | literal v =>
    rw [evaluate]
    split_ifs with hv
    · exact .pure v
    · exact .throw (.malformedLiteral (self_mem_nodes _) (by simpa using hv))
  | field name =>
    rw [evaluate]
    exact .pure _
  | call name args ih =>
    have hargs : ∀ a ∈ args,
        (evaluate .standard record a).FailsOnly (call name args).Accounts := by
      intro a ha
      exact (ih a ha).mono fun e he => he.mono (nodes_subset_call name ha)
    by_cases hif : Text.upper name = "IF"
    · rw [evaluate]
      simp only [if_pos hif]
      exact (failsOnly_evaluateAt hargs 0).bind fun condition => failsOnly_evaluateAt hargs _
    · cases hfind : Registry.standard.find? name with
      | none =>
        rw [evaluate]
        simp only [if_neg hif, Registry.find?_upper, hfind]
        exact .throw (.unknownFunction (self_mem_nodes _) hif hfind)
      | some f =>
        rw [evaluate_call hif hfind]
        refine (failsOnly_evaluateAll hargs).bind fun values => ?_
        refine ((Function.shape_of_find? hfind).failsOnly values record).mono ?_
        rintro e ⟨hname, rfl⟩
        exact .patternTooLarge (self_mem_nodes _) hname
  | binary op left right ihl ihr =>
    rw [evaluate]
    refine (ihl.mono fun e he => he.mono (nodes_subset_left op left right)).bind fun a => ?_
    refine (ihr.mono fun e he => he.mono (nodes_subset_right op left right)).bind fun b => ?_
    refine .ofExcept fun e he => ?_
    obtain ⟨rfl, rfl⟩ := Operator.of_apply_eq_error he
    exact .divisionByZero (self_mem_nodes _)
  | unary op operand ih =>
    rw [evaluate]
    refine (ih.mono fun e he => he.mono (nodes_subset_operand op operand)).bind fun v => ?_
    exact .pure _

/-- The failures of the tree of a formula. The parser makes no constant that cannot be spelled. -/
theorem Accounts.of_ofText {formula : String} {t : Expr} (hread : ofText formula = .ok t)
    {e : EvalError} (h : t.Accounts e) :
    (e = .divisionByZero ∧ ∃ left right, .binary .divide left right ∈ t.nodes) ∨
      (∃ name ∈ t.functions, name ≠ "IF" ∧ Registry.standard.find? name = none ∧
        e = .unknownFunction name) ∨
      ("REPLACE" ∈ t.functions ∧ e = .functionFailed "REPLACE" Texts.patternTooLarge) := by
  cases h with
  | divisionByZero h => exact .inl ⟨rfl, _, _, h⟩
  | @unknownFunction name args h hif hfind =>
    have hname : Text.upper name ∈ t.functions := mem_functions_iff.mpr ⟨name, args, h, rfl⟩
    have hnone : Registry.standard.find? (Text.upper name) = none :=
      (Registry.find?_upper _ name).trans hfind
    exact .inr (.inl ⟨Text.upper name, hname, hif, hnone, rfl⟩)
  | @patternTooLarge name args h hname =>
    exact .inr (.inr ⟨mem_functions_iff.mpr ⟨name, args, h, hname⟩, rfl⟩)
  | malformedLiteral h hvalue =>
    have hspellable := (legible_of_ofText hread).isSpellable h
    rw [hvalue] at hspellable
    cases hspellable

end Expr

/-! ### Formulas -/

namespace Formula

variable {formula : String}

/-- A text that is no formula has no value. -/
theorem evaluate_of_error {e : Expr.SyntaxError} (hread : Expr.ofText formula = .error e)
    (record : Record) (env : Environment) (st : Store) :
    (evaluate .standard formula record env st).1 = .error (.unreadable e) := by
  simp only [evaluate, hread]
  rfl

/-- A formula has the value of its tree and fails as its tree does. -/
theorem evaluate_of_ok {t : Expr} (hread : Expr.ofText formula = .ok t)
    (record : Record) (env : Environment) (st : Store) :
    (evaluate .standard formula record env st).1 =
      ((t.evaluate .standard record).run env st).1.mapError .failed := by
  simp only [evaluate, hread]
  rfl

/-- **A formula is unreadable exactly if its text is faulty**, with the same message. -/
theorem fault?_eq_some_iff {message : String} (record : Record) (env : Environment) (st : Store) :
    fault? formula = some message ↔
      ∃ e, (evaluate .standard formula record env st).1 = .error (.unreadable e) ∧
        (FormulaError.unreadable e).message = message := by
  unfold fault?
  cases hread : Expr.ofText formula with
  | error e =>
    rw [evaluate_of_error hread]
    constructor
    · intro h
      exact ⟨e, rfl, Option.some.inj h⟩
    · rintro ⟨e', h, rfl⟩
      cases h
      rfl
  | ok t =>
    rw [evaluate_of_ok hread]
    constructor
    · intro h
      cases h
    · rintro ⟨e, h, -⟩
      cases hrun : ((t.evaluate .standard record).run env st).1 <;> rw [hrun] at h <;> cases h

/-- **The outcomes of a formula.** Whatever the record, the provider, the clock and the cache, a
formula is unreadable exactly if its text is faulty, with the same message. If it is not, it has a
value, or it divides by zero, which takes a division; or it calls a function that is neither `IF`
nor known; or it calls `REPLACE` with a pattern that is too large. Nothing else goes wrong. -/
theorem evaluate_outcome (formula : String) (record : Record) (env : Environment) (st : Store) :
    let outcome := (evaluate .standard formula record env st).1
    (∀ message, fault? formula = some message ↔
        ∃ e, outcome = .error (.unreadable e) ∧ (FormulaError.unreadable e).message = message) ∧
      ((∃ message, fault? formula = some message) ∨
        ∃ t, Expr.ofText formula = .ok t ∧
          ((∃ v, outcome = .ok v) ∨
            (outcome = .error (.failed .divisionByZero) ∧
              ∃ left right, .binary .divide left right ∈ t.nodes) ∨
            (∃ name ∈ t.functions, name ≠ "IF" ∧ Registry.standard.find? name = none ∧
              outcome = .error (.failed (.unknownFunction name))) ∨
            ("REPLACE" ∈ t.functions ∧
              outcome = .error (.failed (.functionFailed "REPLACE" Texts.patternTooLarge))))) := by
  intro outcome
  refine ⟨fun message => fault?_eq_some_iff record env st, ?_⟩
  cases hread : Expr.ofText formula with
  | error e => exact .inl ⟨e.message, by rw [fault?, hread]⟩
  | ok t =>
    have houtcome : outcome = ((t.evaluate .standard record).run env st).1.mapError .failed :=
      evaluate_of_ok hread record env st
    have haccounts := (Expr.failsOnly_evaluate record t env st trivial).1
    refine .inr ⟨t, rfl, ?_⟩
    rw [houtcome]
    cases hrun : ((t.evaluate .standard record).run env st).1 with
    | ok v => exact .inl ⟨v, rfl⟩
    | error e =>
      rcases (haccounts e hrun).of_ofText hread with
        ⟨rfl, hdivides⟩ | ⟨name, hname, hif, hnone, rfl⟩ | ⟨hname, rfl⟩
      · exact .inr (.inl ⟨rfl, hdivides⟩)
      · exact .inr (.inr (.inl ⟨name, hname, hif, hnone, rfl⟩))
      · exact .inr (.inr (.inr ⟨hname, rfl⟩))

end Formula

end RecordFormula
