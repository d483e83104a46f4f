import RecordFormula.Proofs.Enrichment.Formulas
import RecordFormula.Proofs.Evaluation.Outcomes
import RecordFormula.Proofs.Syntax.Nodes

/-!
# What an evaluation depends on

A tree looks at the record through its fields, and through those of its functions that are given the
record. Of the standard functions only `AI_LEAD_SCORE` looks at it.

* `Function.IgnoresRecord` — the function depends on its arguments alone; **every standard function
  but one does** (`Function.Shape.ignoresRecord`).
* `Expr.evaluate_congr` — two records in which every node of a tree sees the same, over any
  registry.
* **The fields of a tree are all it depends on** (`Expr.evaluate_eq_of_fields`): the outcome, the
  requests and what is left in the cache are the same for two records that agree on the fields.
-/

namespace RecordFormula

open Enrichment (Environment Store)

/-! ### Functions -/

/-- The function does not look at the record. -/
def Function.IgnoresRecord (f : Function) : Prop :=
  ∀ args record record', f.apply args record = f.apply args record'

/-- Of the standard functions all but `AI_LEAD_SCORE` do not look at the record. -/
theorem Function.Shape.ignoresRecord {name : String} {f : Function} (h : Shape name f)
    (hname : name ≠ "AI_LEAD_SCORE") : f.IgnoresRecord := by
  intro args record record'
  cases h with
  | score => exact absurd rfl hname
  | _ => rfl

namespace Expr

variable {registry : Registry} {record record' : Record} {args : List Expr}

/-! ### Lists of trees -/

/-- A list of trees gives the same if each of its trees does. -/
theorem evaluateAll_congr
    (h : ∀ a ∈ args, evaluate registry record a = evaluate registry record' a) :
    evaluateAll registry record args = evaluateAll registry record' args := by
  induction args with
  | nil => rfl
  | cons e rest ih =>
    have he := h e (by simp)
    have hrest := ih fun a ha => h a (List.mem_cons_of_mem e ha)
    rw [evaluateAll, evaluateAll, he, hrest]

/-- So does the tree at any place of the list. -/
theorem evaluateAt_congr
    (h : ∀ a ∈ args, evaluate registry record a = evaluate registry record' a) (n : Nat) :
    evaluateAt registry record n args = evaluateAt registry record' n args := by
  rw [evaluateAt_eq, evaluateAt_eq]
  cases hn : args[n]? with
  | none => rfl
  | some e => exact h e (List.mem_of_getElem? hn)

/-! ### Trees -/

/-- What the root of a tree looks at itself is the same for both records. -/
def AgreesAt (registry : Registry) (record record' : Record) : Expr → Prop
  | .field name => Members.find? name record = Members.find? name record'
  | .call name _ => ∀ f, registry.find? name = some f → f.IgnoresRecord
  | _ => True

/-- A tree gives the same for two records if each of its nodes looks at what is the same. -/
theorem evaluate_congr (t : Expr) (h : ∀ n ∈ t.nodes, AgreesAt registry record record' n) :
    evaluate registry record t = evaluate registry record' t := by
  induction t using induct with
  | literal v => rfl
  | field name =>
    have hname : Members.find? name record = Members.find? name record' :=
      h (field name) (self_mem_nodes _)
    rw [evaluate, evaluate, hname]
  | call name args ih =>
    have hargs : ∀ a ∈ args, evaluate registry record a = evaluate registry record' a := by
      intro a ha
      exact ih a ha fun n hn => h n (nodes_subset_call name ha hn)
    by_cases hif : Text.upper name = "IF"
    · rw [evaluate, evaluate]
      simp only [if_pos hif, evaluateAt_congr hargs]
    · cases hfind : registry.find? name with
      | none =>
        rw [evaluate, evaluate]
        simp only [if_neg hif, Registry.find?_upper, hfind]
      | some f =>
        have hignores : f.IgnoresRecord := h (call name args) (self_mem_nodes _) f hfind
        rw [evaluate_call hif hfind, evaluate_call hif hfind, evaluateAll_congr hargs]
        congr 1
        funext values
        exact hignores values record record'
  | binary op left right ihl ihr =>
    have hleft := ihl fun n hn => h n (nodes_subset_left op left right hn)
    have hright := ihr fun n hn => h n (nodes_subset_right op left right hn)
    rw [evaluate, evaluate, hleft, hright]
  | unary op operand ih =>
    have hoperand := ih fun n hn => h n (nodes_subset_operand op operand hn)
    rw [evaluate, evaluate, hoperand]

/-- **The fields of a tree are all it depends on.** Two records that agree in every field of a tree
without `AI_LEAD_SCORE` — a field being in both with the same value, or in neither — give the same
value or the same failure, after the same requests in the same order, and leave the same cache,
whatever the provider does, whatever the cache holds and whatever the clock shows. Both evaluations
see the same clock, so that `NOW` and `TODAY` need not be excepted. -/
theorem evaluate_eq_of_fields {t : Expr} {record record' : Record}
    (hscore : "AI_LEAD_SCORE" ∉ t.functions)
    (hfields : ∀ name ∈ t.fields, Members.find? name record = Members.find? name record')
    (env : Environment) (st : Store) :
    (t.evaluate .standard record).run env st = (t.evaluate .standard record').run env st := by
  rw [evaluate_congr t]
  intro n hn
  cases n with
  | field name => exact hfields name (mem_fields_iff.mpr hn)
  | call name args =>
    intro f hfind
    refine (Function.shape_of_find? hfind).ignoresRecord ?_
    intro hname
    exact hscore (mem_functions_iff.mpr ⟨name, args, hn, hname⟩)
  | _ => trivial

/-- The size of the company of a record, whatever else the record says. -/
theorem evaluate_eq_of_fields_company :
    let t : Expr := .call "AI_COMPANY_SIZE" [.field "company"]
    let record : Record := [("company", .text "Acme")]
    let record' : Record := [("age", .number 3.0), ("company", .text "Acme")]
    let env : Environment :=
      ⟨fun _ _ => .body (.object [("size", .text "Small")]), fun _ => 0, 1000⟩
    let st := Store.initial 5
    "AI_LEAD_SCORE" ∉ t.functions ∧
      (∀ name ∈ t.fields, Members.find? name record = Members.find? name record') ∧
      (t.evaluate .standard record).run env st = (t.evaluate .standard record').run env st := by
  intro t record record' env st
  have hname : Text.upper "AI_COMPANY_SIZE" = "AI_COMPANY_SIZE" := Text.upper_of_lt (by decide)
  have hscore : "AI_LEAD_SCORE" ∉ t.functions := by
    simp [t, functions, functionNames, functionNamesOf, hname]
  have hfields : ∀ name ∈ t.fields, Members.find? name record = Members.find? name record' := by
    intro name h
    obtain rfl : name = "company" := by simpa [t, fields, fieldNames, fieldNamesOf] using h
    rfl
  exact ⟨hscore, hfields, evaluate_eq_of_fields hscore hfields env st⟩

end Expr

end RecordFormula
