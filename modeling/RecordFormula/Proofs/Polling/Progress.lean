import RecordFormula.Proofs.Polling.Outcomes
import RecordFormula.Proofs.Polling.Steps

/-!
# What polls do

Everything that is said about polls is derived from one specification: a poll is a run, from the
requests that are waited for before it to those that are waited for after it; it ends or waits for
a request; and what can come of the result can come of what has been polled, by the answers that the
service has given.

* `Fair` — all answers that have been given are among given ones, and requests have been given up
  only if they may.
* `Task.Rests` — a task has ended or waits for a request.
* `Expr.Advances` — the specification of a poll.
* **Every poll advances** (`Expr.advances_start`, `Expr.advances_poll`), by one lemma for each way
  of putting polls together (`Advances.andThen`, `advances_arguments`).
-/

namespace RecordFormula

namespace Enrichment

/-! ### Answers that have been given -/

/-- All answers that the service has given are among the given ones, and no request has been given
up, unless any may. -/
structure Fair (K : Answers) (any : Prop) (events : List Event) : Prop where
  /-- The answers are among the given ones. -/
  served : ∀ {kind input result}, .served kind input result ∈ events → K kind input result.value
  /-- No request has been given up. -/
  kept : any ∨ ∀ r, .dropped r ∉ events

variable {K : Answers} {any : Prop} {events events' : List Event}

/-- Fewer events are fair if more are. -/
theorem Fair.mono (h : Fair K any events') (hsub : events ⊆ events') : Fair K any events :=
  ⟨fun hmem => h.served (hsub hmem), h.kept.imp_right fun hkept r hr => hkept r (hsub hr)⟩

/-- What has happened before a run has happened after it. -/
theorem Fair.of_run {env : Environment} {σ σ' : Situation} (hrun : Situation.Run env σ σ')
    (h : Fair K any σ'.course.events) : Fair K any σ.course.events :=
  h.mono hrun.grows.1.subset

section requests

variable {α : Type}

/-- A result that has been received has been given. -/
theorem served_receive (kind : Kind) (input : Json) (reply : Reply) (c : Circumstances)
    (s : Course) :
    .served kind input (receive kind input reply c s).1 ∈
      (receive kind input reply c s).2.events := by
  have happly : receive kind input reply c s =
      conclude kind input (reply.body?.bind Answer.decode?) c
        ⟨s.store, .answered ⟨kind, input⟩ reply :: s.events⟩ := rfl
  rw [happly]
  cases reply.body?.bind (Answer.decode? (α := kind.Result)) <;> exact List.mem_cons_self

/-- What comes of a request that is polled again can come of it. -/
theorem Waiting.results_poll (w : Waiting α) {c : Circumstances} {s : Course}
    (h : Fair K any (w.poll c s).2.events) :
    (w.poll c s).1.results K ⊆ (Enquiry.State.waiting w).results K := by
  rw [Waiting.poll_apply] at h ⊢
  split_ifs at h ⊢ with harrived
  · rintro _ rfl
    exact ⟨_, h.served (served_receive w.kind w.input _ c s), rfl⟩
  · exact Set.Subset.refl _

/-- What comes of an enquiry that is polled for the first time can come of it. -/
theorem Enquiry.results_start (q : Enquiry α) {c : Circumstances} {s : Course}
    (h : Fair K any (q.start c s).2.events) : (q.start c s).1.results K ⊆ q.results K := by
  cases hinput : q.input? with
  | none =>
    have hanswers : q.answers K = {Answer.fallback} := by
      unfold Enquiry.answers
      rw [hinput]
    unfold Enquiry.start results
    rw [hinput, hanswers, Set.image_singleton]
    exact Set.Subset.refl _
  | some input =>
    have hanswers : q.answers K = {a | K q.kind input a} := by
      unfold Enquiry.answers
      rw [hinput]
    rw [Enquiry.start_apply hinput] at h ⊢
    unfold results
    rw [hanswers]
    cases hknown : known? q.kind.Result c.env s.store input with
    | some a =>
      rw [hknown] at h
      rintro _ rfl
      exact ⟨_, h.served List.mem_cons_self, rfl⟩
    | none =>
      rw [hknown] at h
      exact Waiting.results_poll ⟨s.store.requests, q.kind, input, q.use⟩ h

end requests

end Enrichment

open Enrichment

/-- What several computations give, one after the other. -/
theorem Polling.forall₂_mapM {α β : Type} {K : Answers} {any : Prop} {f : β → Polling α}
    {requests : β → List Request} {pending : α → List Request} {R : β → α → Prop}
    {c : Circumstances} {bs : List β}
    (hruns : ∀ b ∈ bs, (f b).Runs (requests b) fun a => pending a)
    (h : ∀ b ∈ bs, ∀ s, Fair K any (f b c s).2.events → R b (f b c s).1) {s : Course}
    (hfair : Fair K any (bs.mapM f c s).2.events) : List.Forall₂ R bs (bs.mapM f c s).1 := by
  induction bs generalizing s with
  | nil => exact .nil
  | cons b rest ih =>
    have hrest : ∀ b' ∈ rest, (f b').Runs (requests b') fun a => pending a := fun b' hb' =>
      hruns b' (List.mem_cons_of_mem b hb')
    rw [List.mapM_cons] at hfair ⊢
    have hb := h b List.mem_cons_self s (hfair.of_run (Polling.Runs.mapM hrest c (f b c s).2))
    exact .cons hb (ih hrest (fun b' hb' => h b' (List.mem_cons_of_mem b hb')) hfair)

/-! ### Evaluations -/

namespace Expr

variable {record : Record} {p : Polling Task} {before : Multiset Request}
  {O : Answers → Prop → Outcomes Value}

/-- The task has ended, or it waits for a request. -/
def Task.Rests (t : Task) : Prop := (∃ r, t = .done r) ∨ t.pending ≠ []

/-- What a poll does. -/
structure Advances (record : Record) (p : Polling Task) (before : Multiset Request)
    (O : Answers → Prop → Outcomes Value) : Prop where
  /-- It goes on with the requests that are waited for. -/
  runs : p.Runs before fun t => t.pending
  /-- It ends or waits for a request. -/
  rests : ∀ c s, (p c s).1.Rests
  /-- What can come of it then could come of it before. -/
  gives : ∀ {c s K any}, Fair K any (p c s).2.events → (p c s).1.outcomes K any record ⊆ O K any

namespace Advances

/-- More can be said to come of it. -/
theorem mono {O' : Answers → Prop → Outcomes Value} (h : Advances record p before O)
    (hO : ∀ K any, O K any ⊆ O' K any) : Advances record p before O' :=
  ⟨h.runs, h.rests, fun hfair => (h.gives hfair).trans (hO _ _)⟩

/-- It ends at once. -/
theorem done {r : Except EvalError Value} (h : ∀ K any, r ∈ O K any) :
    Advances record (pure (.done r)) 0 O := by
  refine ⟨?_, fun c s => .inl ⟨r, rfl⟩, ?_⟩
  · exact .pure (fun t : Task => t.pending) (.done r)
  · rintro c s K any - _ rfl
    exact h K any

/-- It waits. -/
theorem waits {t : Task} (h : t.pending ≠ []) :
    Advances record (pure t) t.pending fun K any => t.outcomes K any record :=
  ⟨.pure (fun t : Task => t.pending) t, fun _ _ => .inr h, fun _ => Set.Subset.refl _⟩

/-- It ends if a task has ended. -/
theorem andThen_done {r : Except EvalError Value} {wait : Task → Task}
    {next : Value → Polling Task} {k : Answers → Prop → Value → Outcomes Value}
    (hnext : ∀ v, Advances record (next v) 0 fun K any => k K any v) :
    Advances record ((Task.done r).andThen wait next) 0
      fun K any => Outcomes.bind {r} (k K any) := by
  cases r with
  | ok v => exact (hnext v).mono fun K any r hr => .ok rfl hr
  | error e => exact .done fun K any => .error rfl

/-- A task that waits is waited for. -/
theorem andThen_of_pending {t : Task} (h : t.pending ≠ []) (wait : Task → Task)
    (next : Value → Polling Task) : t.andThen wait next = pure (wait t) := by
  cases t with
  | done r => exact (h rfl).elim
  | _ => rfl

/-- **One evaluation after the other.** While the first one waits, both wait. -/
theorem andThen (hp : Advances record p before O) {wait : Task → Task}
    {next : Value → Polling Task} {k : Answers → Prop → Value → Outcomes Value}
    (hpending : ∀ t, (wait t).pending = t.pending)
    (houtcomes : ∀ t K any, (wait t).outcomes K any record =
      (t.outcomes K any record).bind (k K any))
    (hnext : ∀ v, Advances record (next v) 0 fun K any => k K any v) :
    Advances record (p >>= fun t => t.andThen wait next) before
      fun K any => (O K any).bind (k K any) := by
  have hthen : ∀ t : Task, t.Rests → Advances record (t.andThen wait next) t.pending
      fun K any => (t.outcomes K any record).bind (k K any) := by
    rintro t (⟨r, rfl⟩ | hwaits)
    · exact andThen_done hnext
    · rw [andThen_of_pending hwaits, ← hpending]
      simp only [← houtcomes]
      exact .waits (by rwa [hpending])
  refine ⟨fun c s => ?_, fun c s => ?_, fun {c s K any} hfair => ?_⟩
  · exact (hp.runs c s).trans ((hthen _ (hp.rests c s)).runs c (p c s).2)
  · exact (hthen _ (hp.rests c s)).rests c (p c s).2
  · have hadvances := hthen _ (hp.rests c s)
    have hbefore := hp.gives (hfair.of_run (hadvances.runs c (p c s).2))
    exact (hadvances.gives hfair).trans (Outcomes.bind_mono hbefore _)

end Advances

/-! ### Arguments -/

/-- The requests that arguments wait for. -/
def Task.pendingAll : Except EvalError (List Task) → List Request
  | .ok ts => ts.flatMap pending
  | .error _ => []

/-- What can come of arguments. -/
def Task.outcomesAll (K : Answers) (any : Prop) (record : Record) :
    Except EvalError (List Task) → Outcomes (List Value)
  | .ok ts => Outcomes.joined any (ts.map (Task.outcomes K any record))
  | .error e => {.error e}

/-- The arguments have values, or some of them wait. -/
def Task.RestAll : Except EvalError (List Task) → Prop
  | .ok ts => (∃ vs : List Value, ts = vs.map fun v => .done (.ok v)) ∨ ts.flatMap pending ≠ []
  | .error _ => True

/-- What a poll of arguments does. -/
structure AdvancesAll (record : Record) (p : Polling (Except EvalError (List Task)))
    (before : Multiset Request) (Os : List (Answers → Prop → Outcomes Value)) : Prop where
  /-- It goes on with the requests that are waited for. -/
  runs : p.Runs before fun r => Task.pendingAll r
  /-- It ends or waits for a request. -/
  rests : ∀ c s, Task.RestAll (p c s).1
  /-- What can come of it then could come of it before. -/
  gives : ∀ {c s K any}, Fair K any (p c s).2.events →
    Task.outcomesAll K any record (p c s).1 ⊆ Outcomes.joined any (Os.map fun O => O K any)

/-- A task that has a value, or waits. -/
def Task.Sound (t : Task) : Prop := (∃ v, t = .done (.ok v)) ∨ t.pending ≠ []

/-- A task is put before others. -/
theorem runs_beside (t : Task) (r : Except EvalError (List Task)) :
    (t.beside r).Runs (t.pending + Task.pendingAll r : Multiset Request)
      fun r => Task.pendingAll r := by
  cases r with
  | error e =>
    have hrun := (Polling.Runs.giveUp t.pending).bind fun _ =>
      Polling.Runs.pure (fun r => Task.pendingAll r) (.error e)
    rwa [← add_zero (t.pending : Multiset Request)] at hrun
  | ok ts =>
    rw [Task.pendingAll, Multiset.coe_add, ← List.flatMap_cons]
    exact .pure (fun r => Task.pendingAll r) (.ok (t :: ts))

/-- Polling the other arguments, when the first has been polled. -/
theorem AdvancesAll.beside {p : Polling (Except EvalError (List Task))} {before : Multiset Request}
    {Os : List (Answers → Prop → Outcomes Value)} (h : AdvancesAll record p before Os) {t : Task}
    (ht : t.Sound) :
    AdvancesAll record (p >>= t.beside) (t.pending + before)
      ((fun K any => t.outcomes K any record) :: Os) := by
  refine ⟨?_, fun c s => ?_, fun {c s K any} hfair => ?_⟩
  · rw [add_comm]
    refine (h.runs.beside t.pending).bind fun r => ?_
    rw [add_comm]
    exact runs_beside t r
  · have hrests := h.rests c s
    rw [Polling.bind_apply]
    generalize (p c s).1 = r at hrests ⊢
    cases r with
    | error e => trivial
    | ok ts =>
      rcases ht with ⟨v, rfl⟩ | hwaits
      · rcases hrests with ⟨vs, rfl⟩ | hwaits
        · exact .inl ⟨v :: vs, rfl⟩
        · exact .inr hwaits
      · exact .inr fun hnil => hwaits (List.append_eq_nil_iff.mp hnil).1
  · have hrest := h.gives (hfair.of_run (runs_beside t _ c (p c s).2))
    rw [Polling.bind_apply] at hfair ⊢
    generalize (p c s).1 = r at hrest hfair ⊢
    cases r with
    | error e =>
      rintro _ rfl
      refine .later ?_ (hrest rfl)
      rcases ht with ⟨v, rfl⟩ | hwaits
      · exact .inr ⟨v, rfl⟩
      · obtain ⟨r, hr⟩ := List.exists_mem_of_ne_nil _ hwaits
        refine hfair.kept.imp_right fun hkept => (hkept r ?_).elim
        exact List.mem_append_left _ (List.mem_map_of_mem hr)
    | ok ts => exact Outcomes.joined_cons_mono (Set.Subset.refl _) hrest

/-- What is done with the first of several computations, when it has been polled. -/
def joinAfter (patient : Bool) (rest : List (List Request × Polling Task)) (t : Task) :
    Polling (Except EvalError (List Task)) :=
  match t with
  | .done (.error e) => do
    Polling.giveUp (rest.flatMap Prod.fst)
    return .error e
  | t =>
    if patient && !t.hasEnded then return .ok (t :: (← rest.mapM Prod.snd))
    else do t.beside (← join patient rest)

/-- Polling computations together is polling the first and going on with the others. -/
theorem join_cons (patient : Bool) (p : List Request × Polling Task)
    (rest : List (List Request × Polling Task)) :
    join patient (p :: rest) = p.2 >>= joinAfter patient rest := rfl

/-- If the first waits, a patient poll does not look at the failures of the others. -/
theorem joinAfter_of_pending {t : Task} (h : t.pending ≠ []) (patient : Bool)
    (rest : List (List Request × Polling Task)) :
    joinAfter patient rest t =
      if patient then do return .ok (t :: (← rest.mapM Prod.snd))
      else join patient rest >>= t.beside := by
  cases t with
  | done r => exact (h rfl).elim
  | _ => cases patient <;> rfl

/-- If the first has a value, the others are polled. -/
theorem joinAfter_of_value (v : Value) (patient : Bool)
    (rest : List (List Request × Polling Task)) :
    joinAfter patient rest (.done (.ok v)) =
      join patient rest >>= (Task.done (.ok v)).beside := by
  simp [joinAfter, Task.hasEnded]

section join

variable {ι : Type} {f : ι → List Request × Polling Task} {O : ι → Answers → Prop → Outcomes Value}
  {patient : Bool} {rest : List ι}

/-- The first computation has failed. -/
theorem advancesAll_joinAfter_error (e : EvalError) :
    AdvancesAll record (joinAfter patient (rest.map f) (.done (.error e)))
      (rest.flatMap fun i => (f i).1)
      ((fun K any => Task.outcomes K any record (.done (.error e))) :: rest.map O) := by
  have hrequests : (rest.map f).flatMap Prod.fst = rest.flatMap fun i => (f i).1 :=
    List.flatMap_map ..
  refine ⟨?_, fun c s => trivial, fun {c s K any} _ => ?_⟩
  · rw [← hrequests]
    exact (Polling.Runs.giveUp _).bind fun _ =>
      .pure (fun r => Task.pendingAll r) (.error e)
  · rintro _ rfl
    exact .error rfl

/-- The first computation waits, and the others are polled without looking at their failures. -/
theorem advancesAll_mapM (h : ∀ i ∈ rest, Advances record (f i).2 (f i).1 (O i)) {t : Task}
    (ht : t.pending ≠ []) :
    AdvancesAll record
      (do return .ok (t :: (← (rest.map f).mapM Prod.snd)))
      (t.pending + rest.flatMap fun i => (f i).1)
      ((fun K any => t.outcomes K any record) :: rest.map O) := by
  have hmap : (rest.map f).mapM Prod.snd = rest.mapM fun i => (f i).2 := List.mapM_map ..
  have hruns := Polling.Runs.mapM fun i hi => (h i hi).runs
  rw [hmap]
  refine ⟨?_, fun c s => ?_, fun {c s K any} hfair => ?_⟩
  · rw [add_comm]
    refine (hruns.beside t.pending).bind fun ts => ?_
    rw [add_comm, Multiset.coe_add, ← List.flatMap_cons]
    exact .pure (fun r => Task.pendingAll r) (.ok (t :: ts))
  · exact .inr fun hnil => ht (List.append_eq_nil_iff.mp hnil).1
  · have hall := Polling.forall₂_mapM (fun i hi => (h i hi).runs)
      (R := fun i t => t.outcomes K any record ⊆ O i K any) (fun i hi s => (h i hi).gives) hfair
    refine Outcomes.joined_cons_mono (Set.Subset.refl _) (Outcomes.joined_mono ?_)
    rw [List.map_map]
    exact List.forall₂_map_left_iff.mpr (List.forall₂_map_right_iff.mpr hall.flip)

/-- The first computation has been polled, and the others advance together. -/
theorem advancesAll_joinAfter (h : ∀ i ∈ rest, Advances record (f i).2 (f i).1 (O i))
    (hothers : AdvancesAll record (join patient (rest.map f))
      (rest.flatMap fun i => (f i).1 : List Request) (rest.map O)) {t : Task} (ht : t.Rests) :
    AdvancesAll record (joinAfter patient (rest.map f) t)
      (t.pending + (rest.flatMap fun i => (f i).1 : List Request) : Multiset Request)
      ((fun K any => t.outcomes K any record) :: rest.map O) := by
  rcases ht with ⟨e | v, rfl⟩ | hwaits
  · exact advancesAll_joinAfter_error e
  · have hadvances := hothers.beside (t := .done (.ok v)) (.inl ⟨v, rfl⟩)
    rw [joinAfter_of_value]
    simpa using hadvances
  · rw [joinAfter_of_pending hwaits]
    split_ifs
    · exact advancesAll_mapM h hwaits
    · exact hothers.beside (.inr hwaits)

/-- **Computations that are polled together advance together.** -/
theorem advancesAll_join (patient : Bool) (h : ∀ i ∈ rest, Advances record (f i).2 (f i).1 (O i)) :
    AdvancesAll record (join patient (rest.map f)) (rest.flatMap fun i => (f i).1)
      (rest.map O) := by
  induction rest with
  | nil =>
    refine ⟨?_, fun c s => .inl ⟨[], rfl⟩, fun _ => Set.Subset.refl _⟩
    exact .pure (fun r => Task.pendingAll r) (.ok [])
  | cons i rest ih =>
    have hi := h i List.mem_cons_self
    have hrest : ∀ j ∈ rest, Advances record (f j).2 (f j).1 (O j) := fun j hj =>
      h j (List.mem_cons_of_mem i hj)
    have hafter := fun {t : Task} => advancesAll_joinAfter (t := t) hrest (ih hrest)
    rw [List.map_cons, join_cons, List.flatMap_cons, List.map_cons, ← Multiset.coe_add]
    refine ⟨fun c s => ?_, fun c s => ?_, fun {c s K any} hfair => ?_⟩
    · exact ((hi.runs.beside _) c s).trans ((hafter (hi.rests c s)).runs c _)
    · exact (hafter (hi.rests c s)).rests c _
    · have hadvances := hafter (hi.rests c s)
      have hfirst := hi.gives (hfair.of_run (hadvances.runs c _))
      exact (hadvances.gives hfair).trans (Outcomes.joined_cons_mono hfirst (Set.Subset.refl _))

end join

/-! ### Calls of functions -/

/-- What the service does for an evaluation. -/
theorem advances_ofState {m : Polling (Enquiry.State Value)} {results : Answers → Set Value}
    (hruns : m.Runs before fun state => state.pending)
    (hresults : ∀ {c s K any}, Fair K any (m c s).2.events → (m c s).1.results K ⊆ results K) :
    Advances record (Task.ofState <$> m) before fun K _ => .ok '' results K := by
  refine ⟨hruns.map fun state => by cases state <;> rfl, fun c s => ?_, fun {c s K any} hfair => ?_⟩
  · rw [Polling.map_apply]
    cases (m c s).1 with
    | ended v => exact .inl ⟨.ok v, rfl⟩
    | waiting w => exact .inr (List.cons_ne_nil _ _)
  · have hstate := hresults hfair
    rw [Polling.map_apply]
    generalize (m c s).1 = state at hstate ⊢
    cases state with
    | ended v =>
      rintro _ rfl
      exact ⟨v, hstate rfl, rfl⟩
    | waiting w => exact Set.image_mono hstate

/-- Making an enquiry. -/
theorem advances_enquiry (q : Enquiry Value) :
    Advances record (Task.ofState <$> q.start) 0 fun K _ => .ok '' q.results K :=
  advances_ofState q.runs_start q.results_start

/-- Waiting for an answer. -/
theorem advances_asking (w : Waiting Value) :
    Advances record (Task.ofState <$> w.poll) {w.request}
      fun K _ => .ok '' (Enquiry.State.waiting w).results K :=
  advances_ofState w.runs_poll w.results_poll

/-- Applying a function. -/
theorem advances_apply (f : StandardFunction) (values : List Value) (record : Record) :
    Advances record (Task.apply f values record) 0 fun K _ => f.outcomes K values record := by
  unfold Task.apply StandardFunction.outcomes
  cases hq : f.enquiry? with
  | some enquiry => exact advances_enquiry (enquiry values record)
  | none =>
    refine ⟨fun c s => ?_, fun c s => .inl ⟨_, rfl⟩, fun {c s K any} _ => ?_⟩
    · have hlocal := StandardFunction.isLocal hq
      generalize f.function = g at hlocal ⊢
      cases hlocal with
      | computes => exact .refl
      | tells => exact .single .look
    · rintro _ rfl
      exact ⟨c.env, s.store, rfl⟩

/-- The values of arguments that have them. -/
theorem mapM_value?_of_values (vs : List Value) :
    (vs.map fun v => Task.done (.ok v)).mapM Task.value? = some vs := by
  induction vs with
  | nil => rfl
  | cons v rest ih =>
    rw [List.map_cons, List.mapM_cons, ih]
    rfl

/-- Only tasks that have values are told to have them. -/
theorem eq_of_mapM_value? {ts : List Task} {vs : List Value} (h : ts.mapM Task.value? = some vs) :
    ts = vs.map fun v => .done (.ok v) := by
  induction ts generalizing vs with
  | nil =>
    cases h
    rfl
  | cons t rest ih =>
    rw [List.mapM_cons] at h
    obtain ⟨v, hv, h⟩ := Option.bind_eq_some_iff.mp h
    obtain ⟨ws, hws, h⟩ := Option.bind_eq_some_iff.mp h
    cases h
    rw [ih hws, List.map_cons]
    congr 1
    unfold Task.value? at hv
    split at hv
    · cases hv
      rfl
    · cases hv

/-- Arguments that have values have these together. -/
theorem joined_of_values {K : Answers} {any : Prop} (vs : List Value) :
    .ok vs ∈ Outcomes.joined any
      ((vs.map fun v => Task.done (.ok v)).map (Task.outcomes K any record)) := by
  induction vs with
  | nil => exact .nil
  | cons v rest ih => exact .ok rfl ih

/-- What a list of tasks waits for. -/
theorem Task.pendingOf_eq (ts : List Task) : pendingOf ts = ts.flatMap pending := by
  induction ts with
  | nil => rfl
  | cons t rest ih => rw [pendingOf, List.flatMap_cons, ih]

/-- A function is applied when all its arguments have values. -/
theorem call_of_values (f : StandardFunction) (record : Record) (vs : List Value) :
    Task.call f record (.ok (vs.map fun v => .done (.ok v))) = Task.apply f vs record := by
  unfold Task.call
  simp only [mapM_value?_of_values]

/-- A function waits as long as its arguments wait. -/
theorem call_of_pending (f : StandardFunction) (record : Record) {ts : List Task}
    (h : ts.flatMap Task.pending ≠ []) :
    Task.call f record (.ok ts) = pure (.arguments f ts) := by
  have hnone : ts.mapM Task.value? = none := by
    by_contra hsome
    obtain ⟨vs, hvs⟩ := Option.ne_none_iff_exists'.mp hsome
    refine h ?_
    rw [eq_of_mapM_value? hvs]
    simp [Task.pending]
  unfold Task.call
  simp only [hnone]

/-- Applying a function to arguments that have been polled. -/
theorem advances_call (f : StandardFunction) (record : Record)
    {r : Except EvalError (List Task)} (hr : Task.RestAll r) :
    Advances record (Task.call f record r) (Task.pendingAll r) fun K any =>
      (Task.outcomesAll K any record r).bind fun values => f.outcomes K values record := by
  cases r with
  | error e => exact .done fun K any => .error rfl
  | ok ts =>
    rcases hr with ⟨vs, rfl⟩ | hwaits
    · have hpending : Task.pendingAll (.ok (vs.map fun v => .done (.ok v))) = [] := by
        simp [Task.pendingAll, Task.pending]
      rw [call_of_values, hpending]
      exact (advances_apply f vs record).mono fun K any r hr =>
        Outcomes.Then.ok (joined_of_values vs) hr
    · have hpending : (Task.arguments f ts).pending = ts.flatMap Task.pending :=
        Task.pendingOf_eq ts
      rw [call_of_pending f record hwaits, Task.pendingAll, ← hpending]
      refine (Advances.waits (by rwa [hpending])).mono fun K any => ?_
      rw [Task.outcomes, Task.outcomesOf_eq]
      exact Set.Subset.refl _

/-- **A function and its arguments advance together.** -/
theorem advances_arguments {ι : Type} {f : ι → List Request × Polling Task}
    {O : ι → Answers → Prop → Outcomes Value} {is : List ι}
    (h : ∀ i ∈ is, Advances record (f i).2 (f i).1 (O i)) (g : StandardFunction) :
    Advances record (do Task.call g record (← joinAll (is.map f))) (is.flatMap fun i => (f i).1)
      fun K any => (Outcomes.joined any (is.map fun i => O i K any)).bind fun values =>
        g.outcomes K values record := by
  have hjoin : ∀ c : Circumstances,
      AdvancesAll record (join (c.patient (is.map f).length) (is.map f)) _ _ := fun c =>
    advancesAll_join _ h
  have hcall := fun (c : Circumstances) (s : Course) => advances_call g record ((hjoin c).rests c s)
  refine ⟨fun c s => ?_, fun c s => ?_, fun {c s K any} hfair => ?_⟩
  · exact ((hjoin c).runs c s).trans ((hcall c s).runs c _)
  · exact (hcall c s).rests c _
  · have hargs := (hjoin c).gives (hfair.of_run ((hcall c s).runs c _))
    rw [List.map_map] at hargs
    exact ((hcall c s).gives hfair).trans (Outcomes.bind_mono hargs _)

/-! ### Polls -/

/-- The first polls of a list of evaluations. -/
theorem starts_eq (record : Record) (args : List Expr) :
    starts record args = args.map fun e => ([], start record e) := by
  induction args with
  | nil => rfl
  | cons e rest ih => rw [starts, List.map_cons, ih]

/-- The next polls of a list of evaluations. -/
theorem Task.polls_eq (record : Record) (ts : List Task) :
    polls record ts = ts.map fun t => (t.pending, poll record t) := by
  induction ts with
  | nil => rfl
  | cons t rest ih => rw [polls, List.map_cons, ih]

variable (record)

mutual

/-- **The first poll of an evaluation advances.** -/
theorem advances_start : ∀ e : Expr,
    Advances record (start record e) 0 fun K any => e.outcomes K any record
  | .literal v => .done fun K any => rfl
  | .field name => .done fun K any => rfl
  | .call name args => by
    rw [start]
    simp only [outcomes]
    split_ifs with hif
    · exact (advances_startAt 0 args).andThen (fun t => rfl) (fun t K any => rfl) fun c =>
        advances_startAt _ args
    · cases StandardFunction.find? (Text.upper name) with
      | none => exact .done fun K any => rfl
      | some f =>
        have hnothing : (args.flatMap fun _ => ([] : List Request)) = [] :=
          List.flatMap_eq_nil_iff.mpr fun _ _ => rfl
        have hadvances := advances_arguments (f := fun e => ([], start record e))
          (advances_starts args) f
        rw [hnothing] at hadvances
        simp only [starts_eq, outcomesOf_eq]
        exact hadvances
  | .binary op left right => by
    rw [start]
    simp only [outcomes]
    exact (advances_start left).andThen (fun t => rfl) (fun t K any => rfl) fun a =>
      (advances_start right).andThen (fun t => rfl) (fun t K any => rfl) fun b =>
        .done fun K any => rfl
  | .unary op operand => by
    rw [start]
    simp only [outcomes]
    exact (advances_start operand).andThen (fun t => rfl) (fun t K any => rfl) fun v =>
      .done fun K any => rfl

/-- So do those of a list of evaluations. -/
theorem advances_starts : ∀ args : List Expr, ∀ e ∈ args,
    Advances record (start record e) 0 fun K any => e.outcomes K any record
  | [], e, he => by cases he
  | e :: rest, e', he' => by
    rcases List.mem_cons.mp he' with heq | he'
    · rw [heq]
      exact advances_start e
    · exact advances_starts rest e' he'

/-- So does that of one of a list of evaluations. -/
theorem advances_startAt (n : Nat) : ∀ args : List Expr,
    Advances record (startAt record n args) 0 fun K any => outcomesAt K any record n args
  | [] => .done fun K any => rfl
  | e :: rest => by
    cases n with
    | zero => exact advances_start e
    | succ n => exact advances_startAt n rest

end

mutual

/-- **A later poll of an evaluation advances.** -/
theorem advances_poll : ∀ t : Task,
    Advances record (t.poll record) t.pending fun K any => t.outcomes K any record
  | .done r => .done fun K any => rfl
  | .asking w => advances_asking w
  | .left op t e => by
    rw [Task.poll]
    simp only [Task.outcomes]
    exact (advances_poll t).andThen (fun t => rfl) (fun t K any => rfl) fun a =>
      (advances_start record e).andThen (fun t => rfl) (fun t K any => rfl) fun b =>
        .done fun K any => rfl
  | .right op a t => by
    rw [Task.poll]
    simp only [Task.outcomes]
    exact (advances_poll t).andThen (fun t => rfl) (fun t K any => rfl) fun b =>
      .done fun K any => rfl
  | .operand op t => by
    rw [Task.poll]
    simp only [Task.outcomes]
    exact (advances_poll t).andThen (fun t => rfl) (fun t K any => rfl) fun v =>
      .done fun K any => rfl
  | .condition t args => by
    rw [Task.poll]
    simp only [Task.outcomes]
    exact (advances_poll t).andThen (fun t => rfl) (fun t K any => rfl) fun c =>
      advances_startAt record _ args
  | .arguments f ts => by
    rw [Task.poll]
    simp only [Task.outcomes, Task.pending, Task.polls_eq, Task.outcomesOf_eq, Task.pendingOf_eq]
    exact advances_arguments (f := fun t => (t.pending, Task.poll record t)) (advances_polls ts) f

/-- So do those of a list of evaluations. -/
theorem advances_polls : ∀ ts : List Task, ∀ t ∈ ts,
    Advances record (t.poll record) t.pending fun K any => t.outcomes K any record
  | [], t, ht => by cases ht
  | t :: rest, t', ht' => by
    rcases List.mem_cons.mp ht' with heq | ht'
    · rw [heq]
      exact advances_poll t
    · exact advances_polls rest t' ht'

end

end Expr

end RecordFormula
