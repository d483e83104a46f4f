import Mathlib.Data.Set.Image
import RecordFormula.Proofs.Enrichment.Formulas
import RecordFormula.Proofs.Polling.Functions
import RecordFormula.Query

/-!
# What can come of an evaluation

What comes of an evaluation that is polled depends on the answers that its requests get, and, where
several arguments fail, on which of them fails first. This module says what can come of it, without
any poll: it depends on what is evaluated, on the answers, and on whether requests may have been
given up.

* `Answers`, `Outcomes` — the answers that requests can get, and what can come of an evaluation.
* `Outcomes.Joined` — what can come of several evaluations that are polled together.
* `Expr.outcomes`, `Task.outcomes` — what can come of an evaluation, from its start and between two
  polls; `Query.outcomes` — what can come of a question.
* `Alike`, `Definite` — two outcomes are the same, or both are failures and requests may have been
  given up.
* **If every request has one answer, an evaluation that does not depend on the clock has one
  outcome**, but for its failures if requests are given up (`Expr.definite_outcomes`,
  `Query.definite_outcomes`).
-/

namespace RecordFormula

open Enrichment

/-! ### Outcomes -/

/-- The answers that requests can get. -/
abbrev Enrichment.Answers := (kind : Kind) → Json → kind.Result → Prop

/-- What can come of an evaluation. -/
abbrev Outcomes (α : Type) := Set (Except EvalError α)

namespace Outcomes

variable {α β : Type} {O O' : Outcomes α} {k k' : α → Outcomes β}

/-- One evaluation after the other: a failure of the first is the failure of both. -/
inductive Then (O : Outcomes α) (k : α → Outcomes β) : Except EvalError β → Prop
  /-- The first has a result. -/
  | ok {a : α} {r : Except EvalError β} (ha : .ok a ∈ O) (hr : r ∈ k a) : Then O k r
  /-- The first fails. -/
  | error {e : EvalError} (he : .error e ∈ O) : Then O k (.error e)

/-- What can come of one evaluation after the other. -/
def bind (O : Outcomes α) (k : α → Outcomes β) : Outcomes β := {r | Then O k r}

/-- More can come of both if more can come of the first. -/
theorem bind_mono (hO : O ⊆ O') (k : α → Outcomes β) : O.bind k ⊆ O'.bind k := by
  rintro r (⟨ha, hr⟩ | he)
  · exact .ok (hO ha) hr
  · exact .error (hO he)

/-- What comes of evaluations that are polled together. The first failure in time is the failure of
all: those before it have results, unless requests may have been given up. -/
inductive Joined (any : Prop) : List (Outcomes α) → Except EvalError (List α) → Prop
  /-- There is none. -/
  | nil : Joined any [] (.ok [])
  /-- All have results. -/
  | ok {O rest a as} (ha : .ok a ∈ O) (has : Joined any rest (.ok as)) :
    Joined any (O :: rest) (.ok (a :: as))
  /-- The first fails. -/
  | error {O rest e} (he : .error e ∈ O) : Joined any (O :: rest) (.error e)
  /-- A later one fails. -/
  | later {O rest e} (hO : any ∨ ∃ a, .ok a ∈ O) (he : Joined any rest (.error e)) :
    Joined any (O :: rest) (.error e)

/-- What can come of evaluations that are polled together. -/
def joined (any : Prop) (Os : List (Outcomes α)) : Outcomes (List α) := {r | Joined any Os r}

/-- More can come of all if more can come of the first and of the others. -/
theorem joined_cons_mono {any : Prop} {Os Os' : List (Outcomes α)} (hO : O ⊆ O')
    (h : joined any Os ⊆ joined any Os') : joined any (O :: Os) ⊆ joined any (O' :: Os') := by
  intro r hr
  cases hr with
  | ok ha has => exact .ok (hO ha) (h has)
  | error he => exact .error (hO he)
  | later hO' he => exact .later (hO'.imp_right fun ⟨a, ha⟩ => ⟨a, hO ha⟩) (h he)

/-- More can come of all if more can come of each. -/
theorem joined_mono {any : Prop} {Os Os' : List (Outcomes α)}
    (h : List.Forall₂ (fun O O' => O ⊆ O') Os Os') : joined any Os ⊆ joined any Os' := by
  induction h with
  | nil => exact Set.Subset.refl _
  | cons hO _ ih => exact joined_cons_mono hO ih

end Outcomes

/-! ### Requests and functions -/

/-- The answers that an enquiry can get. If there is nothing to ask, it is the fallback. -/
def Enrichment.Enquiry.answers {α : Type} (K : Answers) (q : Enquiry α) : Set q.kind.Result :=
  match q.input? with
  | none => {Answer.fallback}
  | some input => {a | K q.kind input a}

/-- What can come of an enquiry. -/
def Enrichment.Enquiry.results {α : Type} (K : Answers) (q : Enquiry α) : Set α :=
  q.use '' q.answers K

/-- What can come of an enquiry that has been polled. -/
def Enrichment.Enquiry.State.results {α : Type} (K : Answers) : Enquiry.State α → Set α
  | .ended a => {a}
  | .waiting w => w.use '' {a | K w.kind w.input a}

/-- What can come of a function. One that asks nothing may depend on the clock. -/
def StandardFunction.outcomes (K : Answers) (f : StandardFunction) (values : List Value)
    (record : Record) : Outcomes Value :=
  match f.enquiry? with
  | some enquiry => .ok '' (enquiry values record).results K
  | none => {r | ∃ env st, r = ((f.function.apply values record).run env st).1}

/-! ### Evaluations -/

namespace Expr

variable (K : Answers) (any : Prop) (record : Record)

mutual

/-- What can come of an evaluation. -/
def outcomes : Expr → Outcomes Value
  | .literal value =>
    {if isSpellable value then .ok value else .error (.malformedLiteral value)}
  | .field name => {.ok ((Members.find? name record).getD .null)}
  | .call name args =>
    let name := Text.upper name
    if name = "IF" then
      (outcomesAt 0 args).bind fun c => outcomesAt (if c.isTruthy then 1 else 2) args
    else
      match StandardFunction.find? name with
      | none => {.error (.unknownFunction name)}
      | some f =>
        (Outcomes.joined any (outcomesOf args)).bind fun values => f.outcomes K values record
  | .binary op left right =>
    (outcomes left).bind fun a => (outcomes right).bind fun b => {op.apply a b}
  | .unary op operand => (outcomes operand).bind fun v => {.ok (op.apply v)}

/-- What can come of each of a list of evaluations. -/
def outcomesOf : List Expr → List (Outcomes Value)
  | [] => []
  | e :: rest => outcomes e :: outcomesOf rest

/-- What can come of the n-th of a list of evaluations. -/
def outcomesAt (n : Nat) : List Expr → Outcomes Value
  | [] => {.ok .null}
  | e :: rest =>
    match n with
    | 0 => outcomes e
    | n + 1 => outcomesAt n rest

end

mutual

/-- What can come of an evaluation between two polls. -/
def Task.outcomes : Task → Outcomes Value
  | .done r => {r}
  | .asking w => .ok '' (Enquiry.State.waiting w).results K
  | .left op t e =>
    (outcomes t).bind fun a => (e.outcomes K any record).bind fun b => {op.apply a b}
  | .right op a t => (outcomes t).bind fun b => {op.apply a b}
  | .operand op t => (outcomes t).bind fun v => {.ok (op.apply v)}
  | .condition t args =>
    (outcomes t).bind fun c => outcomesAt K any record (if c.isTruthy then 1 else 2) args
  | .arguments f ts =>
    (Outcomes.joined any (outcomesOf ts)).bind fun values => f.outcomes K values record

/-- What can come of each of a list of evaluations between two polls. -/
def Task.outcomesOf : List Task → List (Outcomes Value)
  | [] => []
  | t :: rest => outcomes t :: outcomesOf rest

end

/-- What can come of a list of evaluations, one by one. -/
theorem outcomesOf_eq (args : List Expr) :
    outcomesOf K any record args = args.map (outcomes K any record) := by
  induction args with
  | nil => rfl
  | cons e rest ih => rw [outcomesOf, List.map_cons, ih]

/-- The same between two polls. -/
theorem Task.outcomesOf_eq (ts : List Task) :
    outcomesOf K any record ts = ts.map (outcomes K any record) := by
  induction ts with
  | nil => rfl
  | cons t rest ih => rw [outcomesOf, List.map_cons, ih]

end Expr

/-! ### Questions -/

/-- What can come of a question. -/
def Query.outcomes (K : Answers) (any : Prop) : Query → Set Outcome
  | formula text record =>
    match Expr.ofText text with
    | .error e => {.value (.error (.unreadable e))}
    | .ok t => (fun r => .value (r.mapError .failed)) '' t.outcomes K any record
  | tree t record => (fun r => .value (r.mapError .failed)) '' t.outcomes K any record
  | company name => .company '' (companyEnquiry name).results K
  | email first last domain => .email '' (emailEnquiry first last domain).results K
  | phone first last firm => .phone '' (phoneEnquiry first last firm).results K
  | score record => .score '' (scoreEnquiry record).results K

/-- What can come of a question between two polls. -/
def Query.Task.outcomes (K : Answers) (any : Prop) : Query.Task → Set Outcome
  | ended o => {o}
  | tree record t => (fun r => .value (r.mapError .failed)) '' t.outcomes K any record
  | service w => (Enquiry.State.waiting w).results K

/-! ### Definite outcomes -/

section definite

variable {α β : Type} {any : Prop} {O : Outcomes α} {k : α → Outcomes β} {r r' : Except EvalError α}

/-- Two outcomes are the same, or both are failures and requests may have been given up. -/
def Alike (any : Prop) (r r' : Except EvalError α) : Prop :=
  r = r' ∨ any ∧ (∃ e, r = .error e) ∧ ∃ e, r' = .error e

/-- A result is like nothing but itself. -/
theorem Alike.eq_of_ok {a : α} (h : Alike any (.ok a) r) : r = .ok a := by
  rcases h with h | ⟨-, ⟨e, he⟩, -⟩
  · exact h.symm
  · cases he

/-- Nor is anything else like a result. -/
theorem Alike.eq_of_ok' {a : α} (h : Alike any r (.ok a)) : r = .ok a := by
  rcases h with h | ⟨-, -, e, he⟩
  · exact h
  · cases he

/-- Failures of one evaluation that are alike are alike as failures of another. -/
theorem Alike.of_error {e e' : EvalError}
    (h : Alike any (.error e : Except EvalError α) (.error e')) :
    Alike any (.error e : Except EvalError β) (.error e') := by
  rcases h with h | ⟨hany, -⟩
  · cases h
    exact .inl rfl
  · exact .inr ⟨hany, ⟨e, rfl⟩, e', rfl⟩

/-- Any two outcomes are alike. -/
def Definite (any : Prop) (O : Outcomes α) : Prop := ∀ r ∈ O, ∀ r' ∈ O, Alike any r r'

/-- A single outcome is definite. -/
theorem Definite.singleton (r : Except EvalError α) : Definite any {r} := by
  rintro _ rfl _ rfl
  exact .inl rfl

/-- One definite evaluation after the other. -/
theorem Definite.bind (hO : Definite any O) (hk : ∀ a, Definite any (k a)) :
    Definite any (O.bind k) := by
  intro r hr r' hr'
  cases hr with
  | @ok a _ ha hr =>
    cases hr' with
    | ok ha' hr' =>
      obtain rfl := Except.ok.inj (hO _ ha _ ha').eq_of_ok
      exact hk _ _ hr _ hr'
    | error he' => cases (hO _ ha _ he').eq_of_ok
  | error he =>
    cases hr' with
    | ok ha' hr' => cases (hO _ he _ ha').eq_of_ok'
    | error he' => exact (hO _ he _ he').of_error

/-- Definite evaluations that are polled together. -/
theorem Definite.joined {Os : List (Outcomes α)} (hOs : ∀ O ∈ Os, Definite any O) :
    Definite any (Outcomes.joined any Os) := by
  intro r hr
  induction hr with
  | nil =>
    rintro r' ⟨⟩
    exact .inl rfl
  | ok ha has ih =>
    have hO := hOs _ List.mem_cons_self
    have hrest := ih fun O hO => hOs O (List.mem_cons_of_mem _ hO)
    intro r' hr'
    cases hr' with
    | ok ha' has' =>
      obtain rfl := Except.ok.inj (hO _ ha _ ha').eq_of_ok
      obtain rfl := Except.ok.inj (hrest _ has').eq_of_ok
      exact .inl rfl
    | error he' => cases (hO _ ha _ he').eq_of_ok
    | later _ he' => cases (hrest _ he').eq_of_ok
  | error he =>
    have hO := hOs _ List.mem_cons_self
    intro r' hr'
    cases hr' with
    | ok ha' has' => cases (hO _ he _ ha').eq_of_ok'
    | error he' => exact (hO _ he _ he').of_error
    | later hany he' =>
      rcases hany with hany | ⟨a, ha⟩
      · exact .inr ⟨hany, ⟨_, rfl⟩, _, rfl⟩
      · cases (hO _ he _ ha).eq_of_ok'
  | later hany he ih =>
    have hO := hOs _ List.mem_cons_self
    have hrest := ih fun O hO => hOs O (List.mem_cons_of_mem _ hO)
    intro r' hr'
    cases hr' with
    | ok ha' has' => cases (hrest _ has').eq_of_ok'
    | error he' =>
      rcases hany with hany | ⟨a, ha⟩
      · exact .inr ⟨hany, ⟨_, rfl⟩, _, rfl⟩
      · cases (hO _ ha _ he').eq_of_ok
    | later _ he' => exact hrest _ he'

end definite

/-! ### One answer for every request -/

section settled

variable {K : Answers} {any : Prop}

/-- Every request has one answer at most. -/
def Enrichment.Answers.Settled (K : Answers) : Prop :=
  ∀ kind input a b, K kind input a → K kind input b → a = b

/-- There is one result of an enquiry. -/
theorem Enrichment.Enquiry.results_subsingleton {α : Type} (hK : K.Settled) (q : Enquiry α) :
    (q.results K).Subsingleton := by
  refine Set.Subsingleton.image ?_ q.use
  unfold Enquiry.answers
  split
  · exact Set.subsingleton_singleton
  · exact fun a ha b hb => hK _ _ a b ha hb

/-- There is one outcome of a function that does not look at the clock. -/
theorem StandardFunction.definite_outcomes (hK : K.Settled) {f : StandardFunction}
    (hf : Text.upper f.name ≠ "NOW" ∧ Text.upper f.name ≠ "TODAY") (values : List Value)
    (record : Record) : Definite any (f.outcomes K values record) := by
  unfold outcomes
  cases hq : f.enquiry? with
  | some enquiry =>
    intro r hr r' hr'
    exact .inl (((enquiry values record).results_subsingleton hK).image _ hr hr')
  | none =>
    rintro _ ⟨env, st, rfl⟩ _ ⟨env', st', rfl⟩
    have hlocal := isLocal hq
    generalize f.function = g at hlocal ⊢
    cases hlocal with
    | computes => exact .inl rfl
    | tells hname =>
      rcases hname with hname | hname
      · exact absurd hname hf.1
      · exact absurd hname hf.2

namespace Expr

variable (record : Record)

mutual

/-- **If every request has one answer, an evaluation that does not depend on the clock has one
outcome**, but for its failures if requests may have been given up. -/
theorem definite_outcomes (hK : K.Settled) :
    ∀ e : Expr, e.Timeless → Definite any (e.outcomes K any record)
  | .literal v, _ => .singleton _
  | .field name, _ => .singleton _
  | .call name args, ht => by
    obtain ⟨hname, hargs⟩ : Untimed [Text.upper name] ∧ Untimed (functionNamesOf args) :=
      untimed_append.mp ht
    rw [outcomes]
    split_ifs with hif
    · exact (definite_outcomesAt hK 0 args hargs).bind fun c => definite_outcomesAt hK _ args hargs
    · split
      · exact .singleton _
      · rename_i f hfind
        refine (Definite.joined (definite_outcomesOf hK args hargs)).bind fun values => ?_
        apply StandardFunction.definite_outcomes hK
        rw [StandardFunction.name_of_find? hfind, Text.upper_upper]
        simpa [Untimed, eq_comm] using hname
  | .binary op left right, ht => by
    obtain ⟨hleft, hright⟩ : left.Timeless ∧ right.Timeless := untimed_append.mp ht
    rw [outcomes]
    exact (definite_outcomes hK left hleft).bind fun a =>
      (definite_outcomes hK right hright).bind fun b => .singleton _
  | .unary op operand, ht => by
    rw [outcomes]
    exact (definite_outcomes hK operand ht).bind fun v => .singleton _

/-- So has each of a list of evaluations. -/
theorem definite_outcomesOf (hK : K.Settled) : ∀ args : List Expr, Untimed (functionNamesOf args) →
    ∀ O ∈ outcomesOf K any record args, Definite any O
  | [], _, O, hO => by cases hO
  | e :: rest, ht, O, hO => by
    obtain ⟨he, hrest⟩ := untimed_append.mp ht
    rcases List.mem_cons.mp hO with rfl | hO
    · exact definite_outcomes hK e he
    · exact definite_outcomesOf hK rest hrest O hO

/-- So has the n-th of a list of evaluations. -/
theorem definite_outcomesAt (hK : K.Settled) (n : Nat) : ∀ args : List Expr,
    Untimed (functionNamesOf args) → Definite any (outcomesAt K any record n args)
  | [], _ => .singleton _
  | e :: rest, ht => by
    obtain ⟨he, hrest⟩ := untimed_append.mp ht
    rw [outcomesAt.eq_def]
    cases n with
    | zero => exact definite_outcomes hK e he
    | succ n => exact definite_outcomesAt hK n rest hrest

end

end Expr

/-- A formula has failed. -/
def Outcome.Fails (o : Outcome) : Prop := ∃ e, o = .value (.error (.failed e))

namespace Query

/-- The question does not depend on the clock: no formula in it calls `NOW` or `TODAY`. -/
def Timeless : Query → Prop
  | formula text _ => ∀ t, Expr.ofText text = .ok t → t.Timeless
  | tree t _ => t.Timeless
  | _ => True

/-- What can come of a tree, as answers to a question. -/
theorem definite_tree {O : Outcomes Value} (hO : Definite any O) {o o' : Outcome}
    (ho : o ∈ (fun r => .value (r.mapError .failed)) '' O)
    (ho' : o' ∈ (fun r => .value (r.mapError .failed)) '' O) :
    o = o' ∨ any ∧ o.Fails ∧ o'.Fails := by
  obtain ⟨r, hr, rfl⟩ := ho
  obtain ⟨r', hr', rfl⟩ := ho'
  rcases hO r hr r' hr' with rfl | ⟨hany, ⟨e, rfl⟩, e', rfl⟩
  · exact .inl rfl
  · exact .inr ⟨hany, ⟨e, rfl⟩, e', rfl⟩

/-- **If every request has one answer, a question that does not depend on the clock has one
answer**, but for its failures if requests may have been given up. -/
theorem definite_outcomes (hK : K.Settled) {q : Query} (hq : q.Timeless) {o o' : Outcome}
    (ho : o ∈ q.outcomes K any) (ho' : o' ∈ q.outcomes K any) :
    o = o' ∨ any ∧ o.Fails ∧ o'.Fails := by
  have henquiry : ∀ {α : Type} (e : Enquiry α) (f : α → Outcome), o ∈ f '' e.results K →
      o' ∈ f '' e.results K → o = o' ∨ any ∧ o.Fails ∧ o'.Fails := fun e f ho ho' =>
    .inl (((e.results_subsingleton hK).image f) ho ho')
  cases q with
  | formula text record =>
    cases htext : Expr.ofText text with
    | error e =>
      simp only [outcomes, htext] at ho ho'
      exact .inl (ho.trans ho'.symm)
    | ok t =>
      simp only [outcomes, htext] at ho ho'
      exact definite_tree (t.definite_outcomes record hK (hq t htext)) ho ho'
  | tree t record => exact definite_tree (t.definite_outcomes record hK hq) ho ho'
  | _ => exact henquiry _ _ ho ho'

end Query

end settled

end RecordFormula
