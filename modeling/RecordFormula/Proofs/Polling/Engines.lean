import RecordFormula.Proofs.Polling.Progress

/-!
# What becomes of an engine

An engine deals with several calls at a time. Whatever it has come to, a run leads there, and what
has come of its calls can come of their questions.

* `Query.runs_start`, `Query.outcomes_start` and the like — the polls of a question, and those of a
  call.
* `Engine.situation` — what has become of an engine, and what its calls wait for.
* **Whatever an engine has come to, a run leads there** (`Engine.Reachable.run`); no request is lost
  (`Engine.Reachable.accounts`).
* `Job.Follows` — what can come of a call can come of its questions, one by one; `Job.Answered` — a
  question of a call has an answer.
* **What has come of a call can come of its questions** (`Engine.Reachable.follows`).
-/

namespace RecordFormula

open Enrichment

/-! ### Questions -/

namespace Query

variable {K : Answers} {any : Prop} {c : Circumstances} {s : Course}

/-- The question of a tree waits for what the tree waits for. -/
theorem pending_ofTask (record : Record) (t : Expr.Task) :
    (ofTask record t).pending = t.pending := by
  cases t <;> rfl

/-- What can come of the question of a tree. -/
theorem outcomes_ofTask (record : Record) (t : Expr.Task) :
    (ofTask record t).outcomes K any =
      (fun r => .value (r.mapError .failed)) '' t.outcomes K any record := by
  cases t with
  | done r =>
    rw [Expr.Task.outcomes, Set.image_singleton]
    rfl
  | _ => rfl

/-- The question of a request waits for what the request waits for. -/
theorem pending_ofState (state : Enquiry.State Outcome) :
    (ofState state).pending = state.pending := by
  cases state <;> rfl

/-- What can come of the question of a request. -/
theorem outcomes_ofState (state : Enquiry.State Outcome) :
    (ofState state).outcomes K any = state.results K := by
  cases state <;> rfl

/-- What can come of an enquiry whose results are changed. -/
theorem results_map {α β : Type} (f : α → β) (q : Enquiry α) :
    (q.map f).results K = f '' q.results K :=
  (Set.image_image f q.use (q.answers K)).symm

/-- The first poll of an enquiry is that of its question. -/
theorem outcomes_start_enquiry {α : Type} (f : α → Outcome) (q : Enquiry α)
    (h : Fair K any ((q.map f).start c s).2.events) :
    (ofState ((q.map f).start c s).1).outcomes K any ⊆ f '' q.results K := by
  rw [outcomes_ofState, ← results_map]
  exact (q.map f).results_start h

/-- The first poll of a tree is that of its question. -/
theorem outcomes_start_tree (t : Expr) (record : Record)
    (h : Fair K any (t.start record c s).2.events) :
    (ofTask record (t.start record c s).1).outcomes K any ⊆
      (fun r => .value (r.mapError .failed)) '' t.outcomes K any record := by
  rw [outcomes_ofTask]
  exact Set.image_mono ((Expr.advances_start record t).gives h)

/-- The first poll of a question is a run. -/
theorem runs_start (q : Query) : q.start.Runs 0 fun t => t.pending := by
  have htree : ∀ (t : Expr) (record : Record),
      Polling.Runs (ofTask record <$> t.start record) 0 fun t => t.pending := fun t record =>
    (Expr.advances_start record t).runs.map fun t => congrArg _ (pending_ofTask record t)
  have henquiry : ∀ q : Enquiry Outcome,
      Polling.Runs (ofState <$> q.start) 0 fun t => t.pending := fun q =>
    q.runs_start.map fun state => congrArg _ (pending_ofState state)
  cases q with
  | formula text record =>
    cases htext : Expr.ofText text with
    | error e =>
      simp only [start, htext]
      exact .pure (fun t : Task => t.pending) (.ended _)
    | ok t =>
      simp only [start, htext]
      exact htree t record
  | tree t record => exact htree t record
  | _ => exact henquiry _

/-- What comes of the first poll of a question can come of the question. -/
theorem outcomes_start (q : Query) (h : Fair K any (q.start c s).2.events) :
    (q.start c s).1.outcomes K any ⊆ q.outcomes K any := by
  cases q with
  | formula text record =>
    cases htext : Expr.ofText text with
    | error e =>
      simp only [start, outcomes, htext]
      exact Set.Subset.refl _
    | ok t =>
      simp only [start, outcomes, htext] at h ⊢
      exact outcomes_start_tree t record h
  | tree t record => exact outcomes_start_tree t record h
  | company name => exact outcomes_start_enquiry Outcome.company (companyEnquiry name) h
  | email first last domain =>
    exact outcomes_start_enquiry Outcome.email (emailEnquiry first last domain) h
  | phone first last firm =>
    exact outcomes_start_enquiry Outcome.phone (phoneEnquiry first last firm) h
  | score record => exact outcomes_start_enquiry Outcome.score (scoreEnquiry record) h

/-- A later poll of a question is a run. -/
theorem Task.runs_poll (t : Task) : t.poll.Runs t.pending fun t => t.pending := by
  cases t with
  | ended o => exact .pure (fun t : Task => t.pending) (.ended o)
  | tree record t =>
    exact (Expr.advances_poll record t).runs.map fun t => congrArg _ (pending_ofTask record t)
  | service w => exact w.runs_poll.map fun state => congrArg _ (pending_ofState state)

/-- What comes of a later poll of a question could come of it before. -/
theorem Task.outcomes_poll (t : Task) (h : Fair K any (t.poll c s).2.events) :
    (t.poll c s).1.outcomes K any ⊆ t.outcomes K any := by
  cases t with
  | ended o => exact Set.Subset.refl _
  | tree record t =>
    show (ofTask record (t.poll record c s).1).outcomes K any ⊆ _
    rw [outcomes_ofTask]
    exact Set.image_mono ((Expr.advances_poll record t).gives h)
  | service w =>
    show (ofState (w.poll c s).1).outcomes K any ⊆ _
    rw [outcomes_ofState]
    exact w.results_poll h

end Query

/-! ### Calls -/

namespace Call

variable {K : Answers} {any : Prop} {c : Circumstances} {s : Course}

/-- The requests that a call waits for. -/
def pending (tasks : List Query.Task) : List Request := tasks.flatMap Query.Task.pending

/-- The first poll of a call is a run. -/
theorem runs_start (call : Call) : call.start.Runs 0 fun tasks => pending tasks := by
  have hnothing : (call.queries.flatMap fun _ => ([] : List Request)) = [] :=
    List.flatMap_eq_nil_iff.mpr fun _ _ => rfl
  have hfirst : ∀ q ∈ call.queries, q.start.Runs ([] : List Request) fun t => t.pending :=
    fun q _ => q.runs_start
  have hruns := Polling.Runs.mapM hfirst
  rwa [hnothing] at hruns

/-- What comes of the first poll of a call can come of its questions. -/
theorem outcomes_start (call : Call) (h : Fair K any (call.start c s).2.events) :
    List.Forall₂ (fun q t => t.outcomes K any ⊆ q.outcomes K any) call.queries
      (call.start c s).1 := by
  have hfirst : ∀ q : Query, q ∈ call.queries →
      q.start.Runs ([] : List Request) fun t => t.pending := fun q _ => q.runs_start
  exact Polling.forall₂_mapM hfirst (fun q _ _ => q.outcomes_start) h

/-- A later poll of a call is a run. -/
theorem runs_poll (tasks : List Query.Task) :
    (poll tasks).Runs (pending tasks) fun tasks => pending tasks :=
  .mapM fun t _ => t.runs_poll

/-- What comes of a later poll of a call could come of it before. -/
theorem outcomes_poll (tasks : List Query.Task) (h : Fair K any (poll tasks c s).2.events) :
    List.Forall₂ (fun t t' => t'.outcomes K any ⊆ t.outcomes K any) tasks (poll tasks c s).1 :=
  Polling.forall₂_mapM (fun t _ => t.runs_poll) (fun t _ _ => t.outcomes_poll) h

end Call

/-- What can come of each of a list by way of another can come of it. -/
theorem Call.forall₂_trans {ι : Type} {A : ι → Set Outcome} {is : List ι}
    {B : Query.Task → Set Outcome} {ts ts' : List Query.Task}
    (h : List.Forall₂ (fun i t => B t ⊆ A i) is ts)
    (h' : List.Forall₂ (fun t t' => B t' ⊆ B t) ts ts') :
    List.Forall₂ (fun i t => B t ⊆ A i) is ts' := by
  induction h generalizing ts' with
  | nil =>
    cases h'
    exact .nil
  | cons hi _ ih =>
    obtain _ | ⟨ht, hrest⟩ := h'
    exact .cons (ht.trans hi) (ih hrest)

/-! ### Engines -/

/-- What can come of a call can come of its questions, one by one, by the answers that it has
got. -/
def Job.Follows (job : Job) : Prop :=
  ∀ K any, Fair K any job.events →
    List.Forall₂ (fun q t => t.outcomes K any ⊆ q.outcomes K any) job.call.queries job.tasks

/-- The call has the question, and the answer to it. -/
def Job.Answered (job : Job) (q : Query) (o : Outcome) : Prop :=
  (q, .ended o) ∈ job.call.queries.zip job.tasks

/-- The answer to a question of a call can come of the question. -/
theorem Job.Follows.mem_outcomes {job : Job} (h : job.Follows) {K : Answers} {any : Prop}
    (hfair : Fair K any job.events) {q : Query} {o : Outcome} (ho : job.Answered q o) :
    o ∈ q.outcomes K any :=
  (List.forall₂_iff_zip.mp (h K any hfair)).2 ho rfl

namespace Engine

variable {env : Environment} {capacity : Nat} {g g' : Engine}

/-- The requests that calls wait for. -/
def waiting (jobs : List Job) : Multiset Request :=
  jobs.flatMap fun job => Call.pending job.tasks

/-- What has become of an engine, and what its calls wait for. -/
def situation (g : Engine) : Situation := ⟨waiting g.jobs, g.store, g.events⟩

/-- What one of several calls waits for, and what the others wait for. -/
theorem waiting_of_mem (before after : List Job) (job : Job) :
    waiting (before ++ job :: after) = Call.pending job.tasks + waiting (before ++ after) := by
  simp only [waiting, List.flatMap_append, List.flatMap_cons, ← Multiset.coe_add]
  exact add_left_comm _ _ _

/-- Whatever an engine does next is a run. -/
theorem Step.run (h : Step env g g') : Situation.Run env g.situation g'.situation := by
  cases h with
  | take c hc call =>
    have hrun := ((call.runs_start c ⟨g.store, []⟩).after g.events).beside (waiting g.jobs)
    rw [hc] at hrun
    simp only [List.nil_append, zero_add] at hrun
    simp only [situation, Engine.after, List.nil_append]
    exact hrun
  | @poll c hc before after job hjobs =>
    have hrun := ((Call.runs_poll job.tasks c ⟨g.store, []⟩).after g.events).beside
      (waiting (before ++ after))
    rw [hc] at hrun
    simp only [situation, Engine.after, waiting_of_mem, hjobs]
    exact hrun
  | @cancel before after job hjobs =>
    simp only [situation, waiting_of_mem, hjobs]
    exact Situation.run_giveUp _ (waiting (before ++ after)) ⟨g.store, g.events⟩

/-- **Whatever an engine has come to, a run leads there.** -/
theorem Reachable.run (h : Reachable env capacity g) :
    Situation.Run env ⟨0, Store.initial capacity, []⟩ g.situation := by
  induction h with
  | initial => exact .refl
  | step _ hstep ih => exact ih.trans hstep.run

/-- **No request is lost**: each that an engine has made has been answered, has been given up, or
is waited for. -/
theorem Reachable.accounts (h : Reachable env capacity g) : g.situation.Accounted :=
  h.run.accounts rfl

/-- What an engine does next keeps its calls to their questions. -/
theorem Step.follows (h : Step env g g')
    (hg : ∀ job ∈ g.jobs, job.events ⊆ g.events ∧ job.Follows) :
    ∀ job ∈ g'.jobs, job.events ⊆ g'.events ∧ job.Follows := by
  cases h with
  | take c hc call =>
    intro job hjob
    rcases List.mem_cons.mp hjob with rfl | hjob
    · rw [List.append_nil]
      exact ⟨List.subset_append_left _ _, fun K any hfair => call.outcomes_start hfair⟩
    · obtain ⟨hevents, hfollows⟩ := hg job hjob
      exact ⟨List.subset_append_of_subset_right _ hevents, hfollows⟩
  | @poll c hc before after job hjobs =>
    rw [hjobs] at hg
    intro job' hjob'
    rcases List.mem_cons.mp (List.perm_middle.mem_iff.mp hjob') with rfl | hjob'
    · obtain ⟨hevents, hfollows⟩ := hg job (List.perm_middle.mem_iff.mpr List.mem_cons_self)
      refine ⟨List.append_subset.mpr ⟨List.subset_append_left _ _,
        List.subset_append_of_subset_right _ hevents⟩, fun K any hfair => ?_⟩
      have hearlier := hfollows K any (hfair.mono (List.subset_append_right _ _))
      have hpoll := Call.outcomes_poll job.tasks (hfair.mono (List.subset_append_left _ _))
      exact Call.forall₂_trans hearlier hpoll
    · obtain ⟨hevents, hfollows⟩ := hg job'
        (List.perm_middle.mem_iff.mpr (List.mem_cons_of_mem _ hjob'))
      exact ⟨List.subset_append_of_subset_right _ hevents, hfollows⟩
  | @cancel before after job hjobs =>
    rw [hjobs] at hg
    intro job' hjob'
    obtain ⟨hevents, hfollows⟩ := hg job'
      (List.perm_middle.mem_iff.mpr (List.mem_cons_of_mem _ hjob'))
    exact ⟨List.subset_append_of_subset_right _ hevents, hfollows⟩

/-- **What has come of a call can come of its questions**, by the answers that it has got. -/
theorem Reachable.follows (h : Reachable env capacity g) :
    ∀ job ∈ g.jobs, job.events ⊆ g.events ∧ job.Follows := by
  induction h with
  | initial =>
    intro job hjob
    cases hjob
  | step _ hstep ih => exact hstep.follows ih

end Engine

end RecordFormula
