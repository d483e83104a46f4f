import RecordFormula.Formula
import RecordFormula.Proofs.Enrichment.Scripts
import RecordFormula.Proofs.Registry

/-!
# Formulas are scripts

Whatever a formula does with the standard functions is a script, and the script does not look at the
clock unless the formula calls `NOW` or `TODAY`.

* `Expr.Timeless` — the trees that call neither of the two.
* **Every function is a script**, of one request at most (`Function.brief_of_find?`).
* **Every evaluation is a script** (`Expr.follows_evaluate`).
-/

namespace RecordFormula

open Enrichment (Session Script)

namespace Expr

/-- Neither of the two functions that look at the clock is named. -/
def Untimed (names : List String) : Prop := "NOW" ∉ names ∧ "TODAY" ∉ names

/-- Names that stand in two lists stand in one of them. -/
theorem untimed_append {names names' : List String} :
    Untimed (names ++ names') ↔ Untimed names ∧ Untimed names' := by
  simp only [Untimed, List.mem_append, not_or]
  tauto

/-- The tree calls neither `NOW` nor `TODAY`. -/
def Timeless (e : Expr) : Prop := Untimed e.functionNames

variable {registry : Registry} {record : Record} {name : String} {f : Function}

/-- A call of a function that is found evaluates its arguments and then applies the function. -/
theorem evaluate_call (hif : Text.upper name ≠ "IF") (hfind : registry.find? name = some f)
    (args : List Expr) :
    evaluate registry record (.call name args) =
      evaluateAll registry record args >>= fun values => f.apply values record := by
  rw [evaluate]
  simp only [if_neg hif, Registry.find?_upper, hfind]

end Expr

/-! ### Functions -/

section functions

open Enrichment

/-- The function makes one request at most and does nothing else. -/
def Function.Brief (f : Function) : Prop :=
  ∀ args record, Session.Brief (f.apply args record).run

/-- A function of its arguments asks for nothing. -/
theorem Function.Brief.pure (f : List Value → Value) : (Function.pure f).Brief :=
  fun args _ => .pure (Except.ok (f args))

/-- Nor does one that may fail. -/
theorem Function.Brief.ofExcept (f : List Value → Except EvalError Value) :
    (Function.ofExcept f).Brief :=
  fun args _ => .pure (f args)

/-- Nor does one that is listed with those that wait. -/
theorem Function.Brief.pureDeferred (f : List Value → Value) : (Function.pureDeferred f).Brief :=
  fun args _ => .pure (Except.ok (f args))

/-- A function that asks makes the requests of its session. -/
theorem Function.Brief.asking {f : List Value → Record → Session Value}
    (h : ∀ args record, (f args record).Brief) : (Function.asking f).Brief :=
  fun args record => (h args record).map Except.ok

/-- The functions of numbers, texts and truth values make one request at most. -/
theorem Function.brief_of_mem {p : String × Function}
    (h : p ∈ Function.aggregates ++ Function.texts ++ Function.conditions) : p.2.Brief := by
  simp only [Function.aggregates, Function.texts, Function.conditions, List.mem_append,
    List.mem_cons, List.not_mem_nil, or_false] at h
  rcases h with (h | h) | h <;> rcases h with rfl | rfl | rfl | rfl | rfl | rfl | rfl | rfl | rfl
  all_goals first | exact .pure _ | exact .ofExcept _

/-- The functions about leads make one request at most. -/
theorem Function.brief_of_mem_leads {p : String × Function} (h : p ∈ Function.leads) :
    p.2.Brief := by
  simp only [Function.leads, List.mem_cons, List.not_mem_nil, or_false] at h
  rcases h with rfl | rfl | rfl | rfl | rfl | h
  · exact .asking fun args _ =>
      (companyInfo_brief (Arguments.text args 0)).map fun p => Value.text p.industry
  · exact .asking fun args _ =>
      (companyInfo_brief (Arguments.text args 0)).map fun p => Value.text p.size
  · exact .asking fun args _ =>
      (completeEmail_brief (Arguments.text args 0) (Arguments.text args 1)
        (Arguments.text args 2)).map fun s => Leads.orNull s.email
  · exact .asking fun args _ =>
      (completePhone_brief (Arguments.text args 0) (Arguments.text args 1)
        (Arguments.text args 2)).map fun s => Leads.orNull s.phone
  · exact .asking fun args record =>
      (leadScore_brief (Leads.scored args record)).map fun s => Value.number s.score
  · rcases h with rfl | rfl | rfl | rfl | rfl <;> exact .pureDeferred _

/-- The functions of dates make one request at most, or they look at the clock and are called `NOW`
or `TODAY`. -/
theorem Function.brief_of_mem_dates {p : String × Function} (h : p ∈ Function.dates) :
    p.2.Brief ∨ (p.1 = "NOW" ∨ p.1 = "TODAY") ∧ ∃ f, p.2 = .ofClock f := by
  simp only [Function.dates, List.mem_cons, List.not_mem_nil, or_false] at h
  rcases h with rfl | rfl | rfl | rfl | rfl | rfl | rfl
  · exact .inr ⟨.inl rfl, _, rfl⟩
  · exact .inr ⟨.inr rfl, _, rfl⟩
  all_goals exact .inl (.pure _)

/-- **Every function that is found makes one request at most**, or it looks at the clock and its
name is `NOW` or `TODAY`. -/
theorem Function.brief_of_find? {name : String} {f : Function}
    (h : Registry.standard.find? name = some f) :
    f.Brief ∨ (Text.upper name = "NOW" ∨ Text.upper name = "TODAY") ∧ ∃ g, f = .ofClock g := by
  have hmem := Registry.mem_of_find?_standard h
  rw [Function.standard, List.mem_append, List.mem_append] at hmem
  rcases hmem with (hmem | hmem) | hmem
  · exact .inl (brief_of_mem hmem)
  · exact brief_of_mem_dates hmem
  · exact .inl (brief_of_mem_leads hmem)

end functions

/-! ### Evaluations -/

section evaluations

variable {α β : Type} {p q : Prop}

/-- The evaluation is a script, which does not look at the clock under the condition. -/
def Evaluation.Follows (m : Evaluation α) (p : Prop) : Prop :=
  ∃ s : Script (Except EvalError α), s.run = m.run ∧ (p → s.Timeless)

namespace Evaluation.Follows

variable {m : Evaluation α}

/-- The condition may be stronger. -/
theorem mono (h : m.Follows p) (hpq : q → p) : m.Follows q := by
  obtain ⟨s, hrun, hs⟩ := h
  exact ⟨s, hrun, fun hq => hs (hpq hq)⟩

/-- An evaluation that gives a result or fails at once. -/
theorem ofExcept (r : Except EvalError α) : (Evaluation.ofExcept r).Follows p :=
  ⟨.done r, rfl, fun _ => trivial⟩

/-- One evaluation after the other. -/
theorem bind (hm : m.Follows p) {k : α → Evaluation β} (hk : ∀ a, (k a).Follows p) :
    (m >>= k).Follows p := by
  obtain ⟨s, hrun, hs⟩ := hm
  choose s' hrun' hs' using hk
  refine ⟨s.bind fun r => match r with
    | .ok a => s' a
    | .error e => .done (.error e), ?_, fun hp => ?_⟩
  · rw [Script.run_bind, hrun]
    have hcont : ∀ r : Except EvalError α, (match r with
        | .ok a => s' a
        | .error e => .done (.error e)).run = ExceptT.bindCont k r := by
      rintro (e | a)
      · rfl
      · exact hrun' a
    funext env st
    rw [Session.bind_apply, hcont]
    rfl
  · refine (hs hp).bind ?_
    rintro (e | a)
    · trivial
    · exact hs' a hp

end Evaluation.Follows

/-- A function that is found is a script. It does not look at the clock if it is called neither
`NOW` nor `TODAY`. -/
theorem Function.follows_apply {name : String} {f : Function}
    (h : Registry.standard.find? name = some f) (args : List Value) (record : Record) :
    (f.apply args record).Follows (Text.upper name ≠ "NOW" ∧ Text.upper name ≠ "TODAY") := by
  rcases brief_of_find? h with hbrief | ⟨hclock, g, rfl⟩
  · obtain ⟨s, hs, hrun⟩ := hbrief args record
    exact ⟨s, hrun, fun _ => hs.timeless⟩
  · refine ⟨.look fun t => .done (.ok (g t)), rfl, fun hname => ?_⟩
    rcases hclock with hclock | hclock
    · exact absurd hclock hname.1
    · exact absurd hclock hname.2

namespace Expr

variable (record : Record)

mutual

/-- **The evaluation of a tree is a script.** -/
theorem follows_evaluate : ∀ e : Expr, (evaluate .standard record e).Follows e.Timeless
  | .literal v => by
    rw [evaluate]
    split_ifs
    · exact .ofExcept (.ok v)
    · exact .ofExcept (.error _)
  | .field name => .ofExcept (.ok _)
  | .call name args => by
    have htimeless : Untimed ([Text.upper name] ++ functionNamesOf args) ↔
        Untimed [Text.upper name] ∧ Untimed (functionNamesOf args) :=
      untimed_append
    have hargs : (call name args).Timeless → Untimed (functionNamesOf args) := fun h =>
      (htimeless.mp h).2
    have hname : (call name args).Timeless → Text.upper name ≠ "NOW" ∧ Text.upper name ≠ "TODAY" :=
      fun h => by simpa [Untimed, eq_comm] using (htimeless.mp h).1
    rw [evaluate]
    split_ifs with hif
    · exact ((follows_evaluateAt 0 args).mono hargs).bind fun condition =>
        (follows_evaluateAt _ args).mono hargs
    · rw [Registry.find?_upper]
      cases hfind : Registry.standard.find? name with
      | none => exact .ofExcept (.error _)
      | some f =>
        exact ((follows_evaluateAll args).mono hargs).bind fun values =>
          (Function.follows_apply hfind values record).mono hname
  | .binary op left right => by
    have htimeless : (binary op left right).Timeless ↔ left.Timeless ∧ right.Timeless :=
      untimed_append
    rw [evaluate]
    exact ((follows_evaluate left).mono fun h => (htimeless.mp h).1).bind fun a =>
      ((follows_evaluate right).mono fun h => (htimeless.mp h).2).bind fun b => .ofExcept _
  | .unary op operand => by
    rw [evaluate]
    exact (follows_evaluate operand).bind fun v => .ofExcept (.ok _)

/-- So is the evaluation of a list of trees. -/
theorem follows_evaluateAll : ∀ args : List Expr,
    (evaluateAll .standard record args).Follows (Untimed (functionNamesOf args))
  | [] => .ofExcept (.ok [])
  | e :: rest => by
    rw [evaluateAll]
    exact ((follows_evaluate e).mono fun h => (untimed_append.mp h).1).bind fun v =>
      ((follows_evaluateAll rest).mono fun h => (untimed_append.mp h).2).bind fun values =>
        .ofExcept (.ok (v :: values))

/-- So is the evaluation of one of a list of trees. -/
theorem follows_evaluateAt (n : Nat) : ∀ args : List Expr,
    (evaluateAt .standard record n args).Follows (Untimed (functionNamesOf args))
  | [] => .ofExcept (.ok Value.null)
  | e :: rest => by
    rw [evaluateAt.eq_def]
    cases n with
    | zero => exact (follows_evaluate e).mono fun h => (untimed_append.mp h).1
    | succ n => exact (follows_evaluateAt n rest).mono fun h => (untimed_append.mp h).2

end

end Expr

end evaluations

end RecordFormula
