import RecordFormula.Expr.Evaluate
import RecordFormula.Proofs.Enrichment.Requests

/-!
# Outcomes of evaluations

What is true of the outcome of an evaluation whatever store it starts from, as long as the store
satisfies an invariant that the evaluation keeps.

* `Evaluation.run_bind` — one evaluation after the other.
* `Evaluation.Ensures` — the outcome satisfies a condition, and the invariant is kept.
* **Evaluations one after the other** (`Ensures.bind`).
* `Evaluation.FailsOnly` — every failure satisfies a condition, and what this means for the
  evaluation of a list of trees (`Expr.failsOnly_evaluateAll`, `Expr.failsOnly_evaluateAt`).
* `Expr.evaluateAt_eq` — one tree of a list is evaluated, and the others are not.
* `Evaluation.Steady` — the outcome does not depend on the store; **the outcome of two steady
  evaluations is that of the first and then of the second** (`Steady.outcome_bind`).
* `Evaluation.Refines` — of two steady evaluations one has every value that the other has.
-/

namespace RecordFormula

open Enrichment (Environment Store Session)

namespace Evaluation

variable {α β : Type} {env : Environment} {keeps : Store → Prop} {m : Evaluation α}
  {k : α → Evaluation β} {holds holds' : Except EvalError α → Prop}
  {result : Except EvalError β → Prop}

/-- One evaluation after the other: a failure of the first is the failure of both. -/
theorem run_bind (m : Evaluation α) (k : α → Evaluation β) (env : Environment) (st : Store) :
    (m >>= k).run env st =
      match m.run env st with
      | (.ok a, st') => (k a).run env st'
      | (.error e, st') => (.error e, st') := by
  have hsteps : (m >>= k).run env st =
      ExceptT.bindCont k (m.run env st).1 env (m.run env st).2 := rfl
  rw [hsteps]
  rcases m.run env st with ⟨e | a, st'⟩ <;> rfl

/-! ### What an evaluation ensures -/

/-- From every store that satisfies the invariant, the outcome satisfies the condition and the
invariant is kept. -/
def Ensures (env : Environment) (keeps : Store → Prop) (m : Evaluation α)
    (holds : Except EvalError α → Prop) : Prop :=
  ∀ st, keeps st → holds (m.run env st).1 ∧ keeps (m.run env st).2

/-- A weaker condition is ensured, too. -/
theorem Ensures.mono (h : Ensures env keeps m holds) (himp : ∀ r, holds r → holds' r) :
    Ensures env keeps m holds' := by
  intro st hst
  exact ⟨himp _ (h st hst).1, (h st hst).2⟩

/-- An evaluation that gives a result or fails at once. -/
theorem Ensures.ofExcept {r : Except EvalError α} (h : holds r) :
    Ensures env keeps (Evaluation.ofExcept r) holds := by
  intro st hst
  exact ⟨h, hst⟩

/-- One evaluation after the other. -/
theorem Ensures.bind (hm : Ensures env keeps m holds)
    (hok : ∀ a, holds (.ok a) → Ensures env keeps (k a) result)
    (herror : ∀ e, holds (.error e) → result (.error e)) :
    Ensures env keeps (m >>= k) result := by
  intro st hst
  obtain ⟨hout, hkeeps⟩ := hm st hst
  rw [run_bind]
  rcases hrun : m.run env st with ⟨e | a, st'⟩ <;> rw [hrun] at hout hkeeps
  · exact ⟨herror e hout, hkeeps⟩
  · exact hok a hout st' hkeeps

/-! ### Failures -/

section failures

variable {p q : EvalError → Prop}

/-- Every failure of the evaluation satisfies the condition, whoever is asked, whatever is
remembered and whatever the clock shows. -/
def FailsOnly (m : Evaluation α) (p : EvalError → Prop) : Prop :=
  ∀ env, Ensures env (fun _ => True) m fun r => ∀ e, r = .error e → p e

/-- The condition may be weaker. -/
theorem FailsOnly.mono (h : m.FailsOnly p) (hpq : ∀ e, p e → q e) : m.FailsOnly q := by
  intro env
  exact (h env).mono fun r hr e he => hpq e (hr e he)

/-- A result is no failure. -/
theorem FailsOnly.pure (a : α) : FailsOnly (Pure.pure a) p := by
  intro env
  exact .ofExcept fun e he => nomatch he

/-- A failure that satisfies the condition. -/
theorem FailsOnly.throw {e : EvalError} (h : p e) : FailsOnly (throw e : Evaluation α) p := by
  intro env
  refine .ofExcept (r := .error e) fun e' he => ?_
  cases he
  exact h

/-- A result or a failure that is known. -/
theorem FailsOnly.ofExcept {r : Except EvalError α} (h : ∀ e, r = .error e → p e) :
    FailsOnly (Evaluation.ofExcept r) p :=
  fun _ => .ofExcept h

/-- A session does not fail. -/
theorem FailsOnly.lift (m : Session α) : FailsOnly (ExceptT.lift m) p := by
  intro env st _
  refine ⟨?_, trivial⟩
  intro e he
  cases he

/-- One evaluation after the other. -/
theorem FailsOnly.bind (hm : m.FailsOnly p) (hk : ∀ a, (k a).FailsOnly p) :
    (m >>= k).FailsOnly p := by
  intro env
  refine (hm env).bind (fun a _ => hk a env) fun e he e' heq => ?_
  cases heq
  exact he e rfl

end failures

/-! ### Steady evaluations -/

section steady

variable {st : Store} {m' : Evaluation α} {k' : α → Evaluation β}

/-- What comes of an evaluation from a store. -/
def outcome (env : Environment) (st : Store) (m : Evaluation α) : Except EvalError α :=
  (m.run env st).1

/-- From every store that satisfies the invariant comes what comes from this one. -/
def Steady (env : Environment) (keeps : Store → Prop) (st : Store) (m : Evaluation α) : Prop :=
  Ensures env keeps m fun r => r = m.outcome env st

/-- An evaluation that gives a result or fails at once is steady. -/
theorem Steady.ofExcept (r : Except EvalError α) : Steady env keeps st (Evaluation.ofExcept r) :=
  Ensures.ofExcept rfl

/-- **The outcome of steady evaluations one after the other** is that of the first and then, if
there is a result, of the second. -/
theorem Steady.outcome_bind (hst : keeps st) (hm : Steady env keeps st m)
    (hk : ∀ a, Steady env keeps st (k a)) :
    (m >>= k).outcome env st = m.outcome env st >>= fun a => (k a).outcome env st := by
  have hkeeps := (hm st hst).2
  unfold outcome
  rw [run_bind]
  rcases hrun : m.run env st with ⟨e | a, st'⟩ <;> rw [hrun] at hkeeps
  · rfl
  · exact (hk a st' hkeeps).1

/-- If there is a result in the end, there is one in between. -/
theorem Steady.of_outcome_bind_eq_ok (hst : keeps st) (hm : Steady env keeps st m)
    (hk : ∀ a, Steady env keeps st (k a)) {b : β} (h : (m >>= k).outcome env st = .ok b) :
    ∃ a, m.outcome env st = .ok a ∧ (k a).outcome env st = .ok b := by
  rw [hm.outcome_bind hst hk] at h
  cases ha : m.outcome env st with
  | error e =>
    rw [ha] at h
    cases h
  | ok a =>
    rw [ha] at h
    exact ⟨a, rfl, h⟩

/-- Steady evaluations one after the other are steady. -/
theorem Steady.bind (hst : keeps st) (hm : Steady env keeps st m)
    (hk : ∀ a, Steady env keeps st (k a)) : Steady env keeps st (m >>= k) := by
  unfold Steady
  rw [hm.outcome_bind hst hk]
  refine Ensures.bind hm (fun a ha => (hk a).mono fun r hr => ?_) fun e he => ?_
  · rw [← ha, hr]
    rfl
  · rw [← he]
    rfl

/-- Both evaluations are steady, and the second has every value that the first has. -/
structure Refines (env : Environment) (keeps : Store → Prop) (st : Store) (m m' : Evaluation α) :
    Prop where
  /-- The first is steady. -/
  steady : Steady env keeps st m
  /-- So is the second. -/
  steady' : Steady env keeps st m'
  /-- A value of the first is a value of the second. -/
  of_ok : ∀ a, m.outcome env st = .ok a → m'.outcome env st = .ok a

/-- A steady evaluation refines itself. -/
theorem Refines.refl (h : Steady env keeps st m) : Refines env keeps st m m :=
  ⟨h, h, fun _ ha => ha⟩

/-- Refinement of both steps is refinement of the whole. -/
theorem Refines.bind (hst : keeps st) (hm : Refines env keeps st m m')
    (hk : ∀ a, Refines env keeps st (k a) (k' a)) :
    Refines env keeps st (m >>= k) (m' >>= k') := by
  have hsteady := fun a => (hk a).steady
  have hsteady' := fun a => (hk a).steady'
  refine ⟨hm.steady.bind hst hsteady, hm.steady'.bind hst hsteady', fun b hb => ?_⟩
  obtain ⟨a, ha, hb⟩ := hm.steady.of_outcome_bind_eq_ok hst hsteady hb
  rw [hm.steady'.outcome_bind hst hsteady', hm.of_ok a ha]
  exact (hk a).of_ok b hb

end steady

end Evaluation

namespace Expr

open Evaluation (FailsOnly)

variable {registry : Registry} {record : Record} {p : EvalError → Prop} {args : List Expr}

/-- The failures of a list of trees are those of its trees. -/
theorem failsOnly_evaluateAll (h : ∀ a ∈ args, (evaluate registry record a).FailsOnly p) :
    (evaluateAll registry record args).FailsOnly p := by
  induction args with
  | nil => exact .pure []
  | cons e rest ih =>
    rw [evaluateAll]
    refine (h e (by simp)).bind fun v => ?_
    refine (ih fun a ha => h a (List.mem_cons_of_mem e ha)).bind fun values => ?_
    exact .pure (v :: values)

/-- Evaluating at a place of a list is evaluating the tree that stands there, if one does. -/
theorem evaluateAt_eq (registry : Registry) (record : Record) (n : Nat) (args : List Expr) :
    evaluateAt registry record n args =
      args[n]?.elim (pure .null) (evaluate registry record) := by
  induction args generalizing n with
  | nil => rfl
  | cons e rest ih =>
    cases n with
    | zero => rfl
    | succ n => exact ih n

/-- The failures at a place of a list are those of the tree that stands there. -/
theorem failsOnly_evaluateAt (h : ∀ a ∈ args, (evaluate registry record a).FailsOnly p) (n : Nat) :
    (evaluateAt registry record n args).FailsOnly p := by
  rw [evaluateAt_eq]
  cases hn : args[n]? with
  | none => exact .pure Value.null
  | some e => exact h e (List.mem_of_getElem? hn)

end Expr

end RecordFormula
