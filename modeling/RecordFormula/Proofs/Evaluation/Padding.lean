import RecordFormula.Proofs.Enrichment.Formulas
import RecordFormula.Proofs.Evaluation.Outcomes
import RecordFormula.Proofs.Value.Leaves

/-!
# Missing arguments

A function takes an argument that is missing for a null one, whether it asks for its arguments one
by one, goes through all of them or has the record scored instead. Only `AND` does not, which counts
a null argument as false.

* `Arguments.value_append_nulls` — no argument changes when nulls are added at the end;
  `Value.flatten_nulls` — nor do the numbers and texts of all arguments.
* `Function.IgnoresNulls` — a function does not care for nulls at the end; **every standard function
  but one does not** (`Function.ignoresNulls_of_find?`).
* `Expr.evaluateAll_append_nulls`, `Expr.evaluateAt_append_nulls` — lists of trees with trees at the
  end whose values are null.
* **Nulls at the end of a call make no difference** (`Expr.call_append_nulls`).
-/

namespace RecordFormula

open Enrichment (Environment Store)

/-- Nulls at the end of a list of arguments. -/
abbrev Value.nulls (k : Nat) : List Value := List.replicate k .null

/-! ### One argument -/

namespace Arguments

variable (args : List Value) (k n : Nat)

/-- No argument changes when nulls are added at the end. -/
@[simp] theorem value_append_nulls : value (args ++ Value.nulls k) n = value args n := by
  unfold value
  by_cases hn : n < args.length
  · rw [List.getElem?_append_left hn]
  · rw [List.getElem?_append_right (Nat.le_of_not_lt hn),
      List.getElem?_eq_none (Nat.le_of_not_lt hn), List.getElem?_replicate]
    split_ifs <;> rfl

/-- Nor does its number. -/
@[simp] theorem number_append_nulls : number (args ++ Value.nulls k) n = number args n := by
  unfold number
  rw [value_append_nulls]

/-- Nor does its text. -/
@[simp] theorem text_append_nulls : text (args ++ Value.nulls k) n = text args n := by
  unfold text
  rw [value_append_nulls]

/-- Nor does its truth value. -/
@[simp] theorem isTrue_append_nulls : isTrue (args ++ Value.nulls k) n = isTrue args n := by
  unfold isTrue
  rw [value_append_nulls]

/-- Nor does its number, if it may be left out. -/
@[simp] theorem number?_append_nulls : number? (args ++ Value.nulls k) n = number? args n := by
  unfold number?
  rw [value_append_nulls, number_append_nulls]

end Arguments

/-! ### All arguments -/

section all

variable (args : List Value) (k : Nat)

/-- Nulls hold no other values. -/
@[simp] theorem Value.flatten_nulls : flatten (nulls k) = nulls k := by
  induction k with
  | zero => rfl
  | succ k ih =>
    rw [nulls, List.replicate_succ, flatten, ih]
    rfl

/-- There are no numbers among nulls. -/
@[simp] theorem Aggregates.numbers_append_nulls :
    numbers (args ++ Value.nulls k) = numbers args := by
  simp [numbers, Value.asNumber?]

/-- Nulls are empty. -/
theorem Aggregates.count_append_nulls : count (args ++ Value.nulls k) = count args := by
  simp [count, Value.isEmpty]

/-- The text of nulls is empty. -/
theorem Texts.join_append_nulls : join (args ++ Value.nulls k) = join args := by
  have hnulls : (Value.nulls k).foldr (fun v s => v.toText ++ s) "" = "" := by
    induction k with
    | zero => rfl
    | succ k ih =>
      rw [Value.nulls, List.replicate_succ, List.foldr_cons, ih]
      rfl
  simp only [join, joinAll, Value.flatten_append, Value.flatten_nulls, List.foldr_map,
    List.foldr_append, hnulls]

/-- No null counts as true. -/
theorem Conditions.any_append_nulls : any (args ++ Value.nulls k) = any args := by
  simp [any, Value.isTruthy]

/-- A null is no more present than nothing. -/
theorem Conditions.firstPresent_append_nulls :
    firstPresent (args ++ Value.nulls k) = firstPresent args := by
  have hnulls : (Value.nulls k).find? (fun v => !v.isEmpty) = none := by
    simp [Value.isEmpty]
  simp only [firstPresent, List.find?_append, hnulls, Option.or_none]

end all

/-! ### Functions -/

namespace Function

/-- The function does not care for nulls at the end of its arguments. -/
def IgnoresNulls (f : Function) : Prop :=
  ∀ args k record, f.apply (args ++ Value.nulls k) record = f.apply args record

/-- A function of its arguments does not care if its value does not change. -/
theorem IgnoresNulls.pure {f : List Value → Value}
    (h : ∀ args k, f (args ++ Value.nulls k) = f args) : (Function.pure f).IgnoresNulls := by
  intro args k record
  exact congrArg Pure.pure (h args k)

/-- Nor does one that is listed with those that wait. -/
theorem IgnoresNulls.pureDeferred {f : List Value → Value}
    (h : ∀ args k, f (args ++ Value.nulls k) = f args) :
    (Function.pureDeferred f).IgnoresNulls := by
  intro args k record
  exact congrArg Pure.pure (h args k)

/-- Nor does one that may fail. -/
theorem IgnoresNulls.ofExcept {f : List Value → Except EvalError Value}
    (h : ∀ args k, f (args ++ Value.nulls k) = f args) : (Function.ofExcept f).IgnoresNulls := by
  intro args k record
  exact congrArg Evaluation.ofExcept (h args k)

/-- Nor does one that asks, if it asks for the same. -/
theorem IgnoresNulls.asking {f : List Value → Record → Enrichment.Session Value}
    (h : ∀ args k record, f (args ++ Value.nulls k) record = f args record) :
    (Function.asking f).IgnoresNulls := by
  intro args k record
  exact congrArg ExceptT.lift (h args k record)

/-- The functions of numbers do not care for nulls. -/
theorem ignoresNulls_of_mem_aggregates {p : String × Function} (h : p ∈ aggregates) :
    p.2.IgnoresNulls := by
  simp only [aggregates, List.mem_cons, List.not_mem_nil, or_false] at h
  rcases h with rfl | rfl | rfl | rfl | rfl | rfl | rfl
  · exact .pure fun args k => by simp [Aggregates.sum]
  · exact .pure fun args k => by simp [Aggregates.average]
  · exact .pure Aggregates.count_append_nulls
  · exact .pure fun args k => by simp [Aggregates.least]
  · exact .pure fun args k => by simp [Aggregates.greatest]
  · exact .pure fun args k => by simp [Aggregates.round]
  · exact .pure fun args k => by simp [Aggregates.absolute]

/-- The functions of texts do not care for nulls. -/
theorem ignoresNulls_of_mem_texts {p : String × Function} (h : p ∈ texts) : p.2.IgnoresNulls := by
  simp only [texts, List.mem_cons, List.not_mem_nil, or_false] at h
  rcases h with rfl | rfl | rfl | rfl | rfl | rfl | rfl | rfl | rfl
  · exact .pure Texts.join_append_nulls
  · exact .pure fun args k => by simp [Texts.upper]
  · exact .pure fun args k => by simp [Texts.lower]
  · exact .pure fun args k => by simp [Texts.trim]
  · exact .pure fun args k => by simp [Texts.length]
  · exact .pure fun args k => by simp [Texts.left]
  · exact .pure fun args k => by simp [Texts.right]
  · exact .pure fun args k => by simp [Texts.middle]
  · exact .ofExcept fun args k => by simp [Texts.replace]

/-- The functions of truth values do not care for nulls, `AND` excepted. -/
theorem ignoresNulls_of_mem_conditions {p : String × Function} (h : p ∈ conditions)
    (hname : p.1 ≠ "AND") : p.2.IgnoresNulls := by
  simp only [conditions, List.mem_cons, List.not_mem_nil, or_false] at h
  rcases h with rfl | rfl | rfl | rfl | rfl | rfl | rfl
  · exact .pure fun args k => by simp [Conditions.choose]
  · exact absurd rfl hname
  · exact .pure Conditions.any_append_nulls
  · exact .pure fun args k => by simp [Conditions.not]
  · exact .pure fun args k => by simp [Conditions.isEmpty]
  · exact .pure fun args k => by simp [Conditions.isNumber]
  · exact .pure Conditions.firstPresent_append_nulls

/-- The functions of dates do not care for nulls. `NOW` and `TODAY` do not look at any argument. -/
theorem ignoresNulls_of_mem_dates {p : String × Function} (h : p ∈ dates) : p.2.IgnoresNulls := by
  simp only [dates, List.mem_cons, List.not_mem_nil, or_false] at h
  rcases h with rfl | rfl | rfl | rfl | rfl | rfl | rfl
  · exact fun args k record => rfl
  · exact fun args k record => rfl
  · exact .pure fun args k => by simp [Dates.year]
  · exact .pure fun args k => by simp [Dates.month]
  · exact .pure fun args k => by simp [Dates.day]
  · exact .pure fun args k => by simp [Dates.shift]
  · exact .pure fun args k => by simp [Dates.difference]

/-- The functions about leads do not care for nulls: they ask for the same, and `AI_LEAD_SCORE` has
the same record scored. -/
theorem ignoresNulls_of_mem_leads {p : String × Function} (h : p ∈ leads) : p.2.IgnoresNulls := by
  simp only [leads, List.mem_cons, List.not_mem_nil, or_false] at h
  rcases h with rfl | rfl | rfl | rfl | rfl | rfl | rfl | rfl | rfl | rfl
  · exact .asking fun args k record => by simp [Leads.companyIndustry]
  · exact .asking fun args k record => by simp [Leads.companySize]
  · exact .asking fun args k record => by simp [Leads.email]
  · exact .asking fun args k record => by simp [Leads.phone]
  · exact .asking fun args k record => by simp [Leads.score, Leads.scored]
  · exact .pureDeferred fun args k => by simp [Leads.extractDomain]
  · exact .pureDeferred fun args k => by simp [Leads.dialled]
  · exact .pureDeferred fun args k => by simp [Leads.personName]
  · exact .pureDeferred fun args k => by simp [Leads.industry]
  · exact .pureDeferred fun args k => by simp [Leads.sentiment]

/-- **Every standard function but `AND` does not care for nulls** at the end of its arguments. -/
theorem ignoresNulls_of_find? {name : String} {f : Function}
    (h : Registry.standard.find? name = some f) (hname : Text.upper name ≠ "AND") :
    f.IgnoresNulls := by
  have hmem := Registry.mem_of_find?_standard h
  simp only [standard, List.mem_append] at hmem
  rcases hmem with (((hmem | hmem) | hmem) | hmem) | hmem
  · exact ignoresNulls_of_mem_aggregates hmem
  · exact ignoresNulls_of_mem_texts hmem
  · exact ignoresNulls_of_mem_conditions hmem hname
  · exact ignoresNulls_of_mem_dates hmem
  · exact ignoresNulls_of_mem_leads hmem

end Function

/-! ### Calls -/

namespace Expr

variable {registry : Registry} {record : Record} {blanks : List Expr}

/-- Trees whose values are null. -/
theorem evaluateAll_nulls (h : ∀ e ∈ blanks, evaluate registry record e = pure .null) :
    evaluateAll registry record blanks = pure (Value.nulls blanks.length) := by
  induction blanks with
  | nil => rfl
  | cons e rest ih =>
    have he := h e (by simp)
    have hrest := ih fun e he => h e (List.mem_cons_of_mem _ he)
    rw [evaluateAll, he, hrest]
    rfl

/-- The values of trees followed by trees whose values are null. -/
theorem evaluateAll_append_nulls
    (h : ∀ e ∈ blanks, evaluate registry record e = pure .null) (args : List Expr) :
    evaluateAll registry record (args ++ blanks) =
      evaluateAll registry record args >>= fun values =>
        pure (values ++ Value.nulls blanks.length) := by
  induction args with
  | nil => exact evaluateAll_nulls h
  | cons e rest ih =>
    rw [List.cons_append, evaluateAll, evaluateAll, ih]
    simp

/-- The value of one of several trees, followed by trees whose values are null. -/
theorem evaluateAt_append_nulls
    (h : ∀ e ∈ blanks, evaluate registry record e = pure .null) (args : List Expr) (n : Nat) :
    evaluateAt registry record n (args ++ blanks) = evaluateAt registry record n args := by
  rw [evaluateAt_eq, evaluateAt_eq]
  by_cases hn : n < args.length
  · rw [List.getElem?_append_left hn]
  · rw [List.getElem?_append_right (Nat.le_of_not_lt hn),
      List.getElem?_eq_none (Nat.le_of_not_lt hn)]
    cases hblank : blanks[n - args.length]? with
    | none => rfl
    | some e => exact h e (List.mem_of_getElem? hblank)

/-- **Nulls at the end of a call make no difference**, unless `AND` is called. A standard function
gives the same value or the same failure with them and without, after the same requests, and leaves
the same behind, be it applied to values or called in a tree, where the nulls are the values of
trees. This includes `IF`, which evaluates only some of the trees. Both calls see the same clock. -/
theorem call_append_nulls {name : String} (hname : Text.upper name ≠ "AND") (record : Record) :
    (∀ f, Registry.standard.find? name = some f → ∀ args k env st,
      (f.apply (args ++ List.replicate k .null) record).run env st =
        (f.apply args record).run env st) ∧
    ∀ args blanks, (∀ e ∈ blanks, evaluate .standard record e = pure .null) → ∀ env st,
      (evaluate .standard record (.call name (args ++ blanks))).run env st =
        (evaluate .standard record (.call name args)).run env st := by
  constructor
  · intro f hfind args k env st
    have hignores := Function.ignoresNulls_of_find? hfind hname
    rw [hignores args k record]
  · intro args blanks hblanks env st
    by_cases hif : Text.upper name = "IF"
    · rw [evaluate, evaluate]
      simp only [if_pos hif, evaluateAt_append_nulls hblanks]
    · cases hfind : Registry.standard.find? name with
      | none =>
        rw [evaluate, evaluate]
        simp only [if_neg hif, Registry.find?_upper, hfind]
      | some f =>
        have hignores := Function.ignoresNulls_of_find? hfind hname
        rw [evaluate_call hif hfind, evaluate_call hif hfind, evaluateAll_append_nulls hblanks,
          bind_assoc]
        simp only [pure_bind, hignores _ _ record]

/-- The first character of a text, with the number of characters left out or missing. -/
theorem call_append_nulls_left :
    let record : Record := [("name", .text "Acme")]
    let call := fun args => (evaluate .standard record (.call "LEFT" args)).run
    (Text.upper "LEFT" ≠ "AND" ∧ evaluate .standard record (.field "count") = pure .null) ∧
      call [.field "name", .field "count"] = call [.field "name"] := by
  intro record call
  have hname : Text.upper "LEFT" ≠ "AND" := by
    rw [Text.upper_of_lt (by decide)]
    decide
  have hblank : evaluate .standard record (.field "count") = pure .null := by
    rw [evaluate]
    rfl
  refine ⟨⟨hname, hblank⟩, ?_⟩
  funext env st
  refine (call_append_nulls hname record).2 [.field "name"] [.field "count"] ?_ env st
  intro e he
  rw [List.mem_singleton.mp he]
  exact hblank

/-- `AND` is an exception. -/
example : Conditions.all [] = .boolean true ∧ Conditions.all [.null] = .boolean false := ⟨rfl, rfl⟩

end Expr

end RecordFormula
