import RecordFormula.Proofs.Enrichment.Queries
import RecordFormula.Proofs.Evaluation.Outcomes
import RecordFormula.Proofs.Polling.Progress

/-!
# When nothing has to be waited for

An evaluation in one go takes its operands, arguments and records one after the other, each with all
its requests. An evaluation that is polled has the requests of several arguments under way at a
time. If all answers have come when they are looked for, as those of the cache, of a provider that
answers at once, and of an engine without a provider always have, the two agree.

* `Circumstances.Prompt` — all answers have come.
* `Polling.Agrees` — a poll ends, and gives and leaves behind what a session does.
* **The first poll of an evaluation agrees with the evaluation in one go** (`Expr.agrees_start`),
  and so does that of a call, batches included (`Call.agrees_start`).
* **Whatever is polled ends as soon as all answers have come** (`Expr.ends_poll`,
  `Call.ends_poll`).
-/

namespace RecordFormula

namespace Enrichment

/-- All answers have come. -/
def Circumstances.Prompt (c : Circumstances) : Prop := ∀ n, c.arrived n = true

section agreement

variable {α β γ δ : Type} {c : Circumstances}

/-- The computation gives what the session gives, as told, and leaves behind what it leaves
behind. -/
def Polling.Agrees (c : Circumstances) (m : Polling α) (session : Session β) (f : β → α) : Prop :=
  ∀ s, (m c s).1 = f (session c.env s.store).1 ∧ (m c s).2.store = (session c.env s.store).2

namespace Polling.Agrees

variable {m : Polling α} {session : Session β} {f : β → α}

/-- A result that is there already. -/
theorem pure (b : β) (f : β → α) : Agrees c (Pure.pure (f b)) (Pure.pure b) f :=
  fun _ => ⟨rfl, rfl⟩

/-- One computation after the other. -/
theorem bind (hm : Agrees c m session f) {k : α → Polling γ} {session' : β → Session δ} {g : δ → γ}
    (hk : ∀ b, Agrees c (k (f b)) (session' b) g) :
    Agrees c (m >>= k) (session >>= session') g := by
  intro s
  obtain ⟨hresult, hstore⟩ := hm s
  have hafter := hk (session c.env s.store).1 (m c s).2
  rw [hstore] at hafter
  rw [Polling.bind_apply, Session.bind_apply, hresult]
  exact hafter

/-- Changing the results. -/
theorem map (hm : Agrees c m session f) {g : α → γ} {h : β → δ} {k : δ → γ}
    (hcomm : ∀ b, g (f b) = k (h b)) : Agrees c (g <$> m) (h <$> session) k := by
  intro s
  obtain ⟨hresult, hstore⟩ := hm s
  refine ⟨?_, hstore⟩
  rw [Polling.map_apply, hresult]
  exact hcomm _

/-- Several computations, one after the other. -/
theorem mapM {ι : Type} {m : ι → Polling α} {session : ι → Session β}
    (h : ∀ i, Agrees c (m i) (session i) f) (is : List ι) :
    Agrees c (is.mapM m) (is.mapM session) (List.map f) := by
  induction is with
  | nil => exact pure [] (List.map f)
  | cons i rest ih =>
    rw [List.mapM_cons, List.mapM_cons]
    exact (h i).bind fun b => ih.bind fun bs => pure (b :: bs) (List.map f)

end Polling.Agrees

/-- Taking the answer to a request that has just been made is fetching it. -/
theorem receive_eq_fetch (kind : Kind) (input : Json) (c : Circumstances) (cache : Cache)
    (earlier : List Request) (ticks : Nat) (events : List Event) :
    let received := receive kind input (c.env.provider earlier ⟨kind, input⟩) c
      ⟨⟨cache, ⟨kind, input⟩ :: earlier, ticks⟩, events⟩
    let fetched := (fetch (key kind input) input : Session (Enriched kind.Result)) c.env
      ⟨cache, earlier, ticks⟩
    received.1 = fetched.1 ∧ received.2.store = fetched.2 := by
  intro received fetched
  have hreceived : received = conclude kind input (answer? c.env.provider kind input earlier) c
      ⟨⟨cache, ⟨kind, input⟩ :: earlier, ticks⟩,
        .answered ⟨kind, input⟩ (c.env.provider earlier ⟨kind, input⟩) :: events⟩ := rfl
  simp only [hreceived, fetched, fetch_apply, provided?_eq, kind_result]
  cases answer? c.env.provider kind input earlier <;> exact ⟨rfl, rfl⟩

/-- **The first poll of an enquiry agrees with the enquiry in one go.** -/
theorem Enquiry.agrees_start (hc : c.Prompt) (q : Enquiry α) :
    Polling.Agrees c q.start q.perform State.ended := by
  intro s
  have hperform : q.perform c.env s.store =
      (q.use (consult q.kind.Result q.input? c.env s.store).1.value,
        (consult q.kind.Result q.input? c.env s.store).2) := rfl
  cases hinput : q.input? with
  | none =>
    unfold Enquiry.start
    rw [hperform, hinput]
    exact ⟨rfl, rfl⟩
  | some input =>
    rw [hperform, hinput, Enquiry.start_apply hinput, consult, enrich_apply]
    cases known? q.kind.Result c.env s.store input with
    | some a => exact ⟨rfl, rfl⟩
    | none =>
      simp only [kind_result, Waiting.poll_apply, hc _, if_true]
      obtain ⟨hresult, hstore⟩ := receive_eq_fetch q.kind input c
        (lookedUp q.kind.Result c.env s.store input) s.store.requests (s.store.ticks + 1)
        (.asked ⟨q.kind, input⟩ :: s.events)
      exact ⟨congrArg (fun r : Enriched q.kind.Result => State.ended (q.use r.value)) hresult,
        hstore⟩

end agreement

end Enrichment

open Enrichment

/-! ### Evaluations -/

namespace Expr

variable {c : Circumstances} {record : Record}

/-- The tasks of values. -/
def Task.ofValues : Except EvalError (List Value) → Except EvalError (List Task) :=
  Except.map (List.map fun v => .done (.ok v))

/-- One evaluation after the other. -/
theorem agrees_andThen {m : Polling Task} {e : Evaluation Value} {wait : Task → Task}
    {next : Value → Polling Task} {k : Value → Evaluation Value}
    (hm : Polling.Agrees c m e.run .done) (hnext : ∀ v, Polling.Agrees c (next v) (k v).run .done) :
    Polling.Agrees c (m >>= fun t => t.andThen wait next) (e >>= k).run .done := by
  intro s
  obtain ⟨hresult, hstore⟩ := hm s
  rw [Polling.bind_apply, Evaluation.run_bind, hresult]
  rcases hrun : e.run c.env s.store with ⟨err | v, st⟩
  · rw [hrun] at hstore
    exact ⟨rfl, hstore⟩
  · rw [hrun] at hstore
    have hafter := hnext v (m c s).2
    rw [hstore] at hafter
    exact hafter

/-- Applying a function. -/
theorem agrees_apply (hc : c.Prompt) (f : StandardFunction) (values : List Value)
    (record : Record) :
    Polling.Agrees c (Task.apply f values record) (f.function.apply values record).run .done := by
  unfold Task.apply
  cases hq : f.enquiry? with
  | some enquiry =>
    rw [StandardFunction.function_of_enquiry? hq]
    exact ((enquiry values record).agrees_start hc).map (h := Except.ok) fun v => rfl
  | none => exact fun s => ⟨rfl, rfl⟩

/-- Polling arguments together is evaluating them one after the other. -/
theorem agrees_join (patient : Bool) {args : List Expr}
    (h : ∀ e ∈ args, Polling.Agrees c (start record e) (evaluate .standard record e).run .done) :
    Polling.Agrees c (join patient (args.map fun e => ([], start record e)))
      (evaluateAll .standard record args).run Task.ofValues := by
  induction args with
  | nil => exact .pure (Except.ok []) Task.ofValues
  | cons e rest ih =>
    have hrest := ih fun e' he' => h e' (List.mem_cons_of_mem e he')
    intro s
    obtain ⟨hresult, hstore⟩ := h e List.mem_cons_self s
    rw [evaluateAll, List.map_cons, join, Polling.bind_apply, Evaluation.run_bind, hresult]
    rcases hrun : (evaluate .standard record e).run c.env s.store with ⟨err | v, st⟩
    · rw [hrun] at hstore
      exact ⟨rfl, hstore⟩
    · rw [hrun] at hstore
      obtain ⟨hresults, hstores⟩ := hrest (start record e c s).2
      rw [hstore] at hresults hstores
      simp only [Task.hasEnded, Bool.not_true, Bool.and_false, Bool.false_eq_true, if_false,
        Polling.bind_apply, Evaluation.run_bind, hresults]
      rcases hruns : (evaluateAll .standard record rest).run c.env st with ⟨err | vs, st'⟩
      · rw [hruns] at hstores
        exact ⟨rfl, hstores⟩
      · rw [hruns] at hstores
        exact ⟨rfl, hstores⟩

/-- So is polling all arguments of a function. -/
theorem agrees_joinAll {args : List Expr}
    (h : ∀ e ∈ args, Polling.Agrees c (start record e) (evaluate .standard record e).run .done) :
    Polling.Agrees c (joinAll (starts record args)) (evaluateAll .standard record args).run
      Task.ofValues := by
  rw [starts_eq]
  exact fun s => agrees_join (c.patient _) h s

/-- Polling a function with its arguments is evaluating these and applying it. -/
theorem agrees_arguments (hc : c.Prompt) {args : List Expr}
    (h : ∀ e ∈ args, Polling.Agrees c (start record e) (evaluate .standard record e).run .done)
    (f : StandardFunction) :
    Polling.Agrees c (do Task.call f record (← joinAll (starts record args)))
      (evaluateAll .standard record args >>= fun values => f.function.apply values record).run
      .done := by
  intro s
  obtain ⟨hresults, hstores⟩ := agrees_joinAll h s
  rw [Polling.bind_apply, Evaluation.run_bind, hresults]
  rcases hrun : (evaluateAll .standard record args).run c.env s.store with ⟨err | values, st⟩
  · rw [hrun] at hstores
    exact ⟨rfl, hstores⟩
  · rw [hrun] at hstores
    have hafter := agrees_apply hc f values record (joinAll (starts record args) c s).2
    rw [hstores] at hafter
    have hcall : Task.call f record (Task.ofValues (.ok values)) = Task.apply f values record :=
      call_of_values f record values
    simp only [hcall]
    exact hafter

variable (record)

mutual

/-- **The first poll of an evaluation agrees with the evaluation in one go**, if nothing has to be
waited for. -/
theorem agrees_start (hc : c.Prompt) : ∀ e : Expr,
    Polling.Agrees c (start record e) (evaluate .standard record e).run .done
  | .literal v => by
    rw [start, evaluate]
    split_ifs <;> exact fun s => ⟨rfl, rfl⟩
  | .field name => fun s => ⟨rfl, rfl⟩
  | .call name args => by
    rw [start, evaluate]
    split_ifs with hif
    · exact agrees_andThen (agrees_startAt hc 0 args) fun v => agrees_startAt hc _ args
    · rw [← StandardFunction.function_of_find?]
      cases StandardFunction.find? (Text.upper name) with
      | none => exact fun s => ⟨rfl, rfl⟩
      | some f => exact agrees_arguments hc (agrees_starts hc args) f
  | .binary op left right => by
    rw [start, evaluate]
    exact agrees_andThen (agrees_start hc left) fun a =>
      agrees_andThen (agrees_start hc right) fun b s => ⟨rfl, rfl⟩
  | .unary op operand => by
    rw [start, evaluate]
    exact agrees_andThen (agrees_start hc operand) fun v s => ⟨rfl, rfl⟩

/-- So do those of a list of evaluations. -/
theorem agrees_starts (hc : c.Prompt) : ∀ args : List Expr, ∀ e ∈ args,
    Polling.Agrees c (start record e) (evaluate .standard record e).run .done
  | [], e, he => by cases he
  | e :: rest, e', he' => by
    rcases List.mem_cons.mp he' with heq | he'
    · rw [heq]
      exact agrees_start hc e
    · exact agrees_starts hc rest e' he'

/-- So does that of one of a list of evaluations. -/
theorem agrees_startAt (hc : c.Prompt) (n : Nat) : ∀ args : List Expr,
    Polling.Agrees c (startAt record n args) (evaluateAt .standard record n args).run .done
  | [] => fun s => ⟨rfl, rfl⟩
  | e :: rest => by
    cases n with
    | zero => exact agrees_start hc e
    | succ n => exact agrees_startAt hc n rest

end

/-! ### Later polls -/

variable {record}

/-- The poll ends what is polled. -/
def Ends (c : Circumstances) (m : Polling Task) : Prop := ∀ s, ∃ r, (m c s).1 = .done r

/-- One evaluation after the other. -/
theorem Ends.andThen {m : Polling Task} (hm : Ends c m) {wait : Task → Task}
    {next : Value → Polling Task} (hnext : ∀ v, Ends c (next v)) :
    Ends c (m >>= fun t => t.andThen wait next) := by
  intro s
  obtain ⟨e | v, hr⟩ := hm s
  · rw [Polling.bind_apply, hr]
    exact ⟨.error e, rfl⟩
  · rw [Polling.bind_apply, hr]
    exact hnext v _

/-- Evaluations that are polled together. -/
theorem exists_values_join (patient : Bool) {ps : List (List Request × Polling Task)}
    (h : ∀ p ∈ ps, Ends c p.2) (s : Course) : ∃ r, (join patient ps c s).1 = Task.ofValues r := by
  induction ps generalizing s with
  | nil => exact ⟨.ok [], rfl⟩
  | cons p rest ih =>
    rw [join_cons, Polling.bind_apply]
    obtain ⟨e | v, hr⟩ := h p List.mem_cons_self s
    · rw [hr]
      exact ⟨.error e, rfl⟩
    · rw [hr, joinAfter_of_value, Polling.bind_apply]
      obtain ⟨e | vs, hrs⟩ := ih (fun q hq => h q (List.mem_cons_of_mem p hq)) (p.2 c s).2
      · rw [hrs]
        exact ⟨.error e, rfl⟩
      · rw [hrs]
        exact ⟨.ok (v :: vs), rfl⟩

/-- A function with its arguments. -/
theorem Ends.arguments (hc : c.Prompt) {ps : List (List Request × Polling Task)}
    (h : ∀ p ∈ ps, Ends c p.2) (f : StandardFunction) (record : Record) :
    Ends c (do Task.call f record (← joinAll ps)) := by
  intro s
  have hjoin : joinAll ps c s = join (c.patient ps.length) ps c s := rfl
  obtain ⟨e | vs, hr⟩ := exists_values_join (c.patient ps.length) h s
  · rw [Polling.bind_apply, hjoin, hr]
    exact ⟨.error e, rfl⟩
  · have hcall : Task.call f record (Task.ofValues (.ok vs)) = Task.apply f vs record :=
      call_of_values f record vs
    rw [Polling.bind_apply, hjoin, hr, hcall]
    exact ⟨_, (agrees_apply hc f vs record _).1⟩

variable (record)

/-- The first poll of an evaluation ends it if all answers have come. -/
theorem ends_start (hc : c.Prompt) (e : Expr) : Ends c (start record e) :=
  fun s => ⟨_, (agrees_start record hc e s).1⟩

mutual

/-- **A later poll of an evaluation ends it if all answers have come.** -/
theorem ends_poll (hc : c.Prompt) : ∀ t : Task, Ends c (t.poll record)
  | .done r => fun s => ⟨r, rfl⟩
  | .asking w => by
    intro s
    rw [Task.poll, Polling.map_apply, Waiting.poll_apply, if_pos (hc _)]
    exact ⟨_, rfl⟩
  | .left op t e => by
    rw [Task.poll]
    exact (ends_poll hc t).andThen fun a => (ends_start record hc e).andThen fun b s => ⟨_, rfl⟩
  | .right op a t => by
    rw [Task.poll]
    exact (ends_poll hc t).andThen fun b s => ⟨_, rfl⟩
  | .operand op t => by
    rw [Task.poll]
    exact (ends_poll hc t).andThen fun v s => ⟨_, rfl⟩
  | .condition t args => by
    rw [Task.poll]
    exact (ends_poll hc t).andThen fun v s => ⟨_, (agrees_startAt record hc _ args s).1⟩
  | .arguments f ts => by
    rw [Task.poll]
    exact .arguments hc (ends_polls hc ts) f record

/-- So do those of a list of evaluations. -/
theorem ends_polls (hc : c.Prompt) : ∀ ts : List Task, ∀ p ∈ Task.polls record ts, Ends c p.2
  | [], p, hp => by cases hp
  | t :: rest, p, hp => by
    rw [Task.polls] at hp
    rcases List.mem_cons.mp hp with heq | hp
    · rw [heq]
      exact ends_poll hc t
    · exact ends_polls hc rest p hp

end

end Expr

/-! ### Calls -/

section calls

variable {c : Circumstances}

/-- The first poll of a tree agrees with its evaluation in one go. -/
theorem Query.agrees_start_tree (hc : c.Prompt) (t : Expr) (record : Record) :
    Polling.Agrees c (ofTask record <$> t.start record)
      (Outcome.value <$> Formula.evaluateTree .standard t record) .ended := by
  intro s
  obtain ⟨hresult, hstore⟩ := Expr.agrees_start record hc t s
  exact ⟨congrArg (ofTask record) hresult, hstore⟩

/-- The first poll of a request agrees with the request in one go. -/
theorem Query.agrees_start_enquiry (hc : c.Prompt) (q : Enquiry Outcome) :
    Polling.Agrees c (ofState <$> q.start) q.perform .ended := by
  intro s
  obtain ⟨hresult, hstore⟩ := q.agrees_start hc s
  exact ⟨congrArg ofState hresult, hstore⟩

/-- **The first poll of a question agrees with the question in one go**, if nothing has to be waited
for. -/
theorem Query.agrees_start (hc : c.Prompt) (q : Query) :
    Polling.Agrees c q.start q.perform .ended := by
  cases q with
  | formula text record =>
    rw [perform, Formula.evaluate]
    cases htext : Expr.ofText text with
    | error e =>
      simp only [start, htext]
      exact fun s => ⟨rfl, rfl⟩
    | ok t =>
      simp only [start, htext]
      exact agrees_start_tree hc t record
  | tree t record => exact agrees_start_tree hc t record
  | company name => exact agrees_start_enquiry hc ((companyEnquiry name).map Outcome.company)
  | email first last domain =>
    exact agrees_start_enquiry hc ((emailEnquiry first last domain).map Outcome.email)
  | phone first last firm =>
    exact agrees_start_enquiry hc ((phoneEnquiry first last firm).map Outcome.phone)
  | score record => exact agrees_start_enquiry hc ((scoreEnquiry record).map Outcome.score)

/-- **The first poll of a call agrees with the call in one go**, if nothing has to be waited for.
The records of a batch are evaluated one after the other then. -/
theorem Call.agrees_start (hc : c.Prompt) (call : Call) :
    Polling.Agrees c call.start call.perform (List.map .ended) := by
  rw [Call.perform_eq]
  exact .mapM (Query.agrees_start hc) call.queries

/-- A later poll of a question ends it if all answers have come. -/
theorem Query.Task.ends_poll (hc : c.Prompt) (t : Query.Task) (s : Course) :
    ∃ o, (t.poll c s).1 = .ended o := by
  cases t with
  | ended o => exact ⟨o, rfl⟩
  | tree record t =>
    obtain ⟨r, hr⟩ := Expr.ends_poll record hc t s
    exact ⟨_, congrArg (ofTask record) hr⟩
  | service w =>
    show ∃ o, ofState (w.poll c s).1 = .ended o
    rw [Waiting.poll_apply, if_pos (hc _)]
    exact ⟨_, rfl⟩

/-- **A later poll of a call ends all its questions if all answers have come.** -/
theorem Call.ends_poll (hc : c.Prompt) (tasks : List Query.Task) (s : Course) :
    ∃ os : List Outcome, (Call.poll tasks c s).1 = os.map .ended := by
  induction tasks generalizing s with
  | nil => exact ⟨[], rfl⟩
  | cons t rest ih =>
    obtain ⟨o, ho⟩ := t.ends_poll hc s
    obtain ⟨os, hos⟩ := ih (t.poll c s).2
    refine ⟨o :: os, ?_⟩
    rw [Call.poll, List.mapM_cons]
    exact congrArg₂ List.cons ho hos

end calls

end RecordFormula
