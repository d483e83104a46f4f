import RecordFormula.Proofs.Enrichment.Formulas
import RecordFormula.Proofs.Enrichment.Offline
import RecordFormula.Proofs.Evaluation.Outcomes
import RecordFormula.Proofs.Syntax.Nodes

/-!
# Choosing before or after

The evaluator treats `IF` apart: it evaluates the condition and then only the argument that the
condition selects. The registry has a function `IF` as well, which chooses among the values of all
arguments. Without a provider the first refines the second: it has every value that the second has,
and fails only where the second fails.

* `Expr.evaluateEagerly` — evaluation that treats `IF` like any other function.
* `Function.steady_apply` — what a standard function gives does not depend on what came before it.
* **Evaluating one argument** gives what evaluating all gives at its place
  (`Expr.outcome_evaluateAt`).
* **Lazy choice refines eager choice** (`Expr.refines_evaluateEagerly`,
  `Expr.evaluate_refines_evaluateEagerly`).
-/

namespace RecordFormula

open Enrichment (Environment Store Entry Recalls offline)
open Evaluation (Steady Refines)

namespace Expr

/-! ### Eager evaluation -/

mutual

/-- The value of an expression, where `IF` is a function like any other. -/
def evaluateEagerly (registry : Registry) (record : Record) : Expr → Evaluation Value
  | .literal value =>
    if isSpellable value then pure value else throw (.malformedLiteral value)
  | .field name => pure ((Members.find? name record).getD .null)
  | .call name args =>
    let name := Text.upper name
    match registry.find? name with
    | none => throw (.unknownFunction name)
    | some f => do
      let values ← evaluateAllEagerly registry record args
      f.apply values record
  | .binary op left right => do
    let a ← evaluateEagerly registry record left
    let b ← evaluateEagerly registry record right
    Evaluation.ofExcept (op.apply a b)
  | .unary op operand => do
    let v ← evaluateEagerly registry record operand
    pure (op.apply v)

/-- The values of a list of expressions. -/
def evaluateAllEagerly (registry : Registry) (record : Record) :
    List Expr → Evaluation (List Value)
  | [] => pure []
  | e :: rest => do
    let v ← evaluateEagerly registry record e
    let values ← evaluateAllEagerly registry record rest
    pure (v :: values)

end

/-- A call of a function that is found evaluates its arguments and then applies the function, be it
`IF` or not. -/
theorem evaluateEagerly_call {registry : Registry} {record : Record} {name : String} {f : Function}
    (hfind : registry.find? name = some f) (args : List Expr) :
    evaluateEagerly registry record (.call name args) =
      evaluateAllEagerly registry record args >>= fun values => f.apply values record := by
  rw [evaluateEagerly]
  simp only [Registry.find?_upper, hfind]

end Expr

/-! ### Functions -/

/-- The function `IF` of the registry chooses among the values of its arguments. -/
theorem Registry.find?_standard_if :
    standard.find? "IF" = some (.pure Conditions.choose) :=
  find?_standard_of_mem (by simp [Function.standard, Function.conditions])

section functions

variable {env : Environment} {known : String → Option Entry} {st : Store}

/-- **A standard function is steady without a provider**, if it does not look at the clock or if the
clock stands still. -/
theorem Function.steady_apply {name : String} {f : Function}
    (hfind : Registry.standard.find? name = some f) (hoffline : env.provider = offline)
    (htime : (∀ n, env.clock n = env.clock 0) ∨
      Text.upper name ≠ "NOW" ∧ Text.upper name ≠ "TODAY")
    (hst : Recalls env known st) (values : List Value) (record : Record) :
    Steady env (Recalls env known) st (f.apply values record) := by
  obtain ⟨s, hrun, hs⟩ := Function.follows_apply hfind values record
  obtain ⟨r, hr⟩ : ∃ r, ∀ st, Recalls env known st →
      (s.run env st).1 = r ∧ Recalls env known (s.run env st).2 :=
    s.run_offline hoffline (htime.imp_right hs)
  intro st' hst'
  unfold Evaluation.outcome
  rw [← hrun, (hr st hst).1]
  exact hr st' hst'

end functions

/-! ### Trees -/

namespace Expr

/-- A tree inside a tree that does not look at the clock does not look at it either. -/
theorem Timeless.of_nodes_subset {s t : Expr} (h : t.Timeless) (hst : s.nodes ⊆ t.nodes) :
    s.Timeless := by
  have hfunctions : ∀ name, name ∈ s.functionNames → name ∈ t.functionNames := by
    intro name hname
    rw [← mem_distinctTexts] at hname ⊢
    obtain ⟨callee, args, hcall, rfl⟩ := mem_functions_iff.mp hname
    exact mem_functions_iff.mpr ⟨callee, args, hst hcall, rfl⟩
  exact ⟨fun hnow => h.1 (hfunctions _ hnow), fun htoday => h.2 (hfunctions _ htoday)⟩

/-- The root of a tree that does not look at the clock calls neither of the functions that do. -/
theorem Timeless.call {name : String} {args : List Expr} (h : (call name args).Timeless) :
    Text.upper name ≠ "NOW" ∧ Text.upper name ≠ "TODAY" := by
  simp only [Timeless, Untimed, functionNames, List.mem_cons, not_or] at h
  exact ⟨Ne.symm h.1.1, Ne.symm h.2.1⟩

section refinement

variable {env : Environment} {keeps : Store → Prop} {st : Store} {registry : Registry}
  {record : Record} {args : List Expr}

/-- Lists of trees refine each other if their trees do. -/
theorem refines_evaluateAllEagerly (hst : keeps st)
    (h : ∀ a ∈ args, Refines env keeps st (evaluateEagerly registry record a)
      (evaluate registry record a)) :
    Refines env keeps st (evaluateAllEagerly registry record args)
      (evaluateAll registry record args) := by
  induction args with
  | nil => exact .refl (.ofExcept (.ok []))
  | cons e rest ih =>
    rw [evaluateAllEagerly, evaluateAll]
    refine (h e (by simp)).bind hst fun v => ?_
    refine (ih fun a ha => h a (List.mem_cons_of_mem e ha)).bind hst fun values => ?_
    exact .refl (.ofExcept (.ok (v :: values)))

/-- The tree at any place of a list is steady if all trees are. -/
theorem steady_evaluateAt (h : ∀ a ∈ args, Steady env keeps st (evaluate registry record a))
    (n : Nat) : Steady env keeps st (evaluateAt registry record n args) := by
  rw [evaluateAt_eq]
  cases hn : args[n]? with
  | none => exact .ofExcept (.ok Value.null)
  | some e => exact h e (List.mem_of_getElem? hn)

/-- **Evaluating one argument** gives what evaluating all of them gives at its place. Past the end
both have null. -/
theorem outcome_evaluateAt (hst : keeps st)
    (h : ∀ a ∈ args, Refines env keeps st (evaluateEagerly registry record a)
      (evaluate registry record a)) {values : List Value}
    (hvalues : (evaluateAllEagerly registry record args).outcome env st = .ok values) (n : Nat) :
    (evaluateAt registry record n args).outcome env st = .ok (Arguments.value values n) := by
  induction args generalizing values n with
  | nil =>
    obtain rfl : [] = values := Except.ok.inj hvalues
    rfl
  | cons e rest ih =>
    have hrest := fun a ha => h a (List.mem_cons_of_mem e ha)
    have he := h e (by simp)
    have hall := (refines_evaluateAllEagerly hst hrest).steady
    have hlast : ∀ (v : Value) values, Steady env keeps st (pure (v :: values)) := fun v values =>
      .ofExcept (.ok (v :: values))
    rw [evaluateAllEagerly] at hvalues
    obtain ⟨v, hv, hvalues⟩ :=
      he.steady.of_outcome_bind_eq_ok hst (fun v => hall.bind hst (hlast v)) hvalues
    obtain ⟨vs, hvs, hvalues⟩ := hall.of_outcome_bind_eq_ok hst (hlast v) hvalues
    obtain rfl : v :: vs = values := Except.ok.inj hvalues
    cases n with
    | zero => exact he.of_ok v hv
    | succ n => exact ih hrest hvs n

/-- A choice that evaluates one argument refines the choice among the values of all. -/
theorem refines_choose (hst : keeps st)
    (h : ∀ a ∈ args, Refines env keeps st (evaluateEagerly registry record a)
      (evaluate registry record a)) :
    Refines env keeps st
      (evaluateAllEagerly registry record args >>= fun values => pure (Conditions.choose values))
      (evaluateAt registry record 0 args >>= fun condition =>
        evaluateAt registry record (if condition.isTruthy then 1 else 2) args) := by
  have hall := (refines_evaluateAllEagerly hst h).steady
  have hchoose : ∀ values, Steady env keeps st (pure (Conditions.choose values)) := fun values =>
    .ofExcept (.ok (Conditions.choose values))
  have hat := steady_evaluateAt fun a ha => (h a ha).steady'
  have hselect := fun condition : Value => hat (if condition.isTruthy then 1 else 2)
  refine ⟨hall.bind hst hchoose, (hat 0).bind hst hselect, fun v hv => ?_⟩
  obtain ⟨values, hvalues, hv⟩ := hall.of_outcome_bind_eq_ok hst hchoose hv
  obtain rfl : Conditions.choose values = v := Except.ok.inj hv
  rw [(hat 0).outcome_bind hst hselect, outcome_evaluateAt hst h hvalues 0]
  show (evaluateAt registry record _ args).outcome env st = _
  rw [outcome_evaluateAt hst h hvalues, Conditions.choose, Arguments.isTrue]
  split_ifs <;> rfl

end refinement

variable {env : Environment} {known : String → Option Entry} {st : Store}

/-- **Lazy choice refines eager choice**, whatever the tree. -/
theorem refines_evaluateEagerly (hoffline : env.provider = offline) (hst : Recalls env known st)
    (record : Record) (t : Expr) (htime : (∀ n, env.clock n = env.clock 0) ∨ t.Timeless) :
    Refines env (Recalls env known) st (evaluateEagerly .standard record t)
      (evaluate .standard record t) := by
  induction t using induct with
  | literal v =>
    rw [evaluateEagerly, evaluate]
    split_ifs
    · exact .refl (.ofExcept (.ok v))
    · exact .refl (.ofExcept (.error (.malformedLiteral v)))
  | field name =>
    rw [evaluateEagerly, evaluate]
    exact .refl (.ofExcept (.ok _))
  | call name args ih =>
    have hargs : ∀ a ∈ args, Refines env (Recalls env known) st
        (evaluateEagerly .standard record a) (evaluate .standard record a) := by
      intro a ha
      exact ih a ha (htime.imp_right fun h => h.of_nodes_subset (nodes_subset_call name ha))
    by_cases hif : Text.upper name = "IF"
    · have hfind : Registry.standard.find? name = some (.pure Conditions.choose) := by
        rw [← Registry.find?_upper, hif]
        exact Registry.find?_standard_if
      rw [evaluateEagerly_call hfind, evaluate]
      simp only [if_pos hif]
      exact refines_choose hst hargs
    · cases hfind : Registry.standard.find? name with
      | none =>
        rw [evaluateEagerly, evaluate]
        simp only [if_neg hif, Registry.find?_upper, hfind]
        exact .refl (.ofExcept (.error (.unknownFunction (Text.upper name))))
      | some f =>
        rw [evaluateEagerly_call hfind, evaluate_call hif hfind]
        refine (refines_evaluateAllEagerly hst hargs).bind hst fun values => ?_
        exact .refl (Function.steady_apply hfind hoffline (htime.imp_right Timeless.call) hst
          values record)
  | binary op left right ihl ihr =>
    have hleft := ihl (htime.imp_right fun h => h.of_nodes_subset (nodes_subset_left op left right))
    have hright :=
      ihr (htime.imp_right fun h => h.of_nodes_subset (nodes_subset_right op left right))
    rw [evaluateEagerly, evaluate]
    refine hleft.bind hst fun a => hright.bind hst fun b => ?_
    exact .refl (.ofExcept (op.apply a b))
  | unary op operand ih =>
    have hoperand :=
      ih (htime.imp_right fun h => h.of_nodes_subset (nodes_subset_operand op operand))
    rw [evaluateEagerly, evaluate]
    refine hoperand.bind hst fun v => ?_
    exact .refl (.ofExcept (.ok (op.apply v)))

/-- **Lazy choice refines eager choice.** Without a provider, whatever the tree, the record and the
cache: if the evaluation that treats `IF` like any other function gives a value, then so does the
evaluation that treats it apart, the same; and if the latter fails, the former fails. Both
evaluations look at the same clock, but not equally often. It stands still; or else the tree does
not look at it, and it makes no difference to the answers in the cache. -/
theorem evaluate_refines_evaluateEagerly (t : Expr) (record : Record) (clock : Nat → Int)
    (ttl : Nat) (st : Store)
    (htime : (∀ n, clock n = clock 0) ∨ t.Timeless ∧
      ∀ n key, (st.cache.lookup (clock n) key).1 = (st.cache.lookup (clock 0) key).1) :
    let env : Environment := ⟨offline, clock, ttl⟩
    let eager := ((t.evaluateEagerly .standard record).run env st).1
    let outcome := ((t.evaluate .standard record).run env st).1
    (∀ v, eager = .ok v → outcome = .ok v) ∧
      ∀ e, outcome = .error e → ∃ e', eager = .error e' := by
  intro env eager outcome
  have hst : Recalls env (fun key => (st.cache.lookup (clock 0) key).1) st := by
    rcases htime with hclock | ⟨-, hcache⟩
    · exact Enrichment.recalls_of_still hclock st
    · exact hcache
  have hrefines := refines_evaluateEagerly rfl hst record t (htime.imp_right And.left)
  refine ⟨hrefines.of_ok, fun e he => ?_⟩
  cases heager : eager with
  | error e' => exact ⟨e', rfl⟩
  | ok v =>
    have hok : outcome = .ok v := hrefines.of_ok v heager
    rw [hok] at he
    cases he

/-- A choice within a choice, which lacks the argument that its condition selects. -/
theorem evaluate_refines_evaluateEagerly_nested :
    let t : Expr := .call "IF" [.literal (.boolean true),
      .call "IF" [.literal (.boolean false), .field "a"], .literal (.number 2.0)]
    let env : Environment := ⟨offline, fun _ => 0, 1000⟩
    let st := Store.initial 5
    ((t.evaluateEagerly .standard []).run env st).1 = .ok .null ∧
      ((t.evaluate .standard []).run env st).1 = .ok .null := by
  intro t env st
  have heager : ((t.evaluateEagerly .standard []).run env st).1 = .ok .null := by
    rw [evaluateEagerly_call Registry.find?_standard_if, evaluateAllEagerly, evaluateAllEagerly,
      evaluateEagerly_call Registry.find?_standard_if]
    rfl
  have hrefines := evaluate_refines_evaluateEagerly t [] (fun _ => 0) 1000 st (.inl fun _ => rfl)
  exact ⟨heager, hrefines.1 _ heager⟩

end Expr

end RecordFormula
