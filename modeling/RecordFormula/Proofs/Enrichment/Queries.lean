import RecordFormula.Proofs.Enrichment.Formulas
import RecordFormula.Query

/-!
# Questions are scripts

Whatever an engine is asked in one go is a script.

* `Query.exists_script`, `Call.exists_script` — **every question is a script, and so is every
  call**.
* `Call.perform_eq` — a batch is its questions, one after the other.
-/

namespace RecordFormula

open Enrichment

/-! ### Questions -/

namespace Query

/-- The value of a tree is a script. -/
theorem exists_script_tree (t : Expr) (record : Record) :
    ∃ s : Script Outcome,
      s.run = Outcome.value <$> Formula.evaluateTree .standard t record := by
  obtain ⟨s, hrun, -⟩ := Expr.follows_evaluate record t
  refine ⟨s.bind fun r => .done (.value (r.mapError .failed)), ?_⟩
  rw [Script.run_bind, hrun]
  rfl

/-- **Every question is a script.** -/
theorem exists_script (q : Query) : ∃ s : Script Outcome, s.run = q.perform := by
  have hbrief : ∀ {m : Session Outcome}, m.Brief → ∃ s : Script Outcome, s.run = m := by
    rintro m ⟨s, -, hrun⟩
    exact ⟨s, hrun⟩
  cases q with
  | formula text record =>
    rw [perform, Formula.evaluate]
    cases Expr.ofText text with
    | error e => exact ⟨.done (.value (.error (.unreadable e))), rfl⟩
    | ok t => exact exists_script_tree t record
  | tree t record => exact exists_script_tree t record
  | company name => exact hbrief ((companyInfo_brief name).map _)
  | email first last domain => exact hbrief ((completeEmail_brief first last domain).map _)
  | phone first last firm => exact hbrief ((completePhone_brief first last firm).map _)
  | score record => exact hbrief ((leadScore_brief record).map _)

end Query

/-! ### Calls -/

namespace Call

/-- Changing every result of several sessions changes their results. -/
theorem mapM_map_results {α β γ : Type} (m : α → Session β) (g : β → γ) (as : List α) :
    as.mapM (fun a => g <$> m a) = List.map g <$> as.mapM m := by
  induction as with
  | nil => rfl
  | cons a rest ih =>
    rw [List.mapM_cons, List.mapM_cons, ih]
    rfl

/-- A batch is its questions one after the other. -/
theorem perform_eq (c : Call) : c.perform = c.queries.mapM Query.perform := by
  cases c with
  | single q => simp [perform, queries]
  | batch t records =>
    have hqueries : (batch t records).queries.mapM Query.perform =
        records.mapM fun record => Outcome.value <$> Formula.evaluateTree .standard t record :=
      List.mapM_map ..
    have htree : Formula.evaluateTreeEach .standard t records =
        records.mapM (Formula.evaluateTree .standard t) :=
      (mapM_map_results (fun record => (t.evaluate .standard record).run)
        (fun r => r.mapError FormulaError.failed) records).symm
    rw [hqueries, mapM_map_results, perform, htree]

end Call

/-- Sessions that are scripts, one after the other, are a script. -/
theorem Enrichment.Script.exists_run_eq_mapM {α β : Type} {f : β → Session α}
    (h : ∀ b, ∃ s : Script α, s.run = f b) (bs : List β) :
    ∃ s : Script (List α), s.run = bs.mapM f := by
  induction bs with
  | nil => exact ⟨.done [], rfl⟩
  | cons b rest ih =>
    obtain ⟨s, hs⟩ := h b
    obtain ⟨s', hs'⟩ := ih
    refine ⟨s.bind fun a => s'.bind fun as => .done (a :: as), ?_⟩
    rw [List.mapM_cons, ← hs, ← hs', run_bind]
    congr 1
    funext a
    rw [run_bind]
    rfl

/-- **Every call is a script.** -/
theorem Call.exists_script (call : Call) :
    ∃ s : Script (List Outcome), s.run = call.perform := by
  rw [Call.perform_eq]
  exact Script.exists_run_eq_mapM Query.exists_script call.queries

end RecordFormula
