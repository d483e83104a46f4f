import RecordFormula.Proofs.Polling.Engines

/-!
# What comes of a first poll

The first poll of a request, of a function and of a question, for each of the ways in which it can
go: the answer is in the cache, it comes at once, or it is waited for; an argument has its value, it
waits, or it fails.

* `Enquiry.start_of_known`, `Enquiry.start_of_unknown`, `Enquiry.start_of_arrived` — a request. An
  answer that has been stored is known afterwards (`known?_storing`).
* `Expr.start_enquiry_of_known`, `Expr.start_enquiry_of_unknown` — a function that asks.
* `Expr.start_call_pair`, `Expr.poll_arguments_pair` — a function neither of whose arguments fails.
* `Expr.start_call_of_error`, `Expr.start_call_of_error_beside` — a function one of whose arguments
  fails.
* `Engine.after_start`, `Engine.after_poll` — an engine that has been asked a question, and one that
  has gone on with it.
* `Circumstances.late`, `Engine.Delayed` — an engine whose provider has every answer one poll late.
-/

namespace RecordFormula

open Enrichment

/-! ### Requests -/

namespace Enrichment

variable {α : Type} {kind : Kind} {input : Json}

/-- An answer that has been stored is known as long as it counts. -/
theorem known?_storing {env : Environment} {s : Course} {reply : Reply} {a : kind.Result}
    (hroom : 0 < s.store.cache.capacity)
    (hdecode : Answer.decode? (Answer.encode (Answer.normalize a)) = some (Answer.normalize a))
    (hlive : env.clock (s.store.ticks + 1) < expiry (env.clock s.store.ticks) env.ttl) :
    known? kind.Result env (s.storing env kind input reply a).store input =
      some (Answer.normalize a) := by
  have hfind : (s.storing env kind input reply a).store.cache.find? (key kind input) =
      some (entry kind input a (expiry (env.clock s.store.ticks) env.ttl)) :=
    Cache.find?_store_self hroom
  have hcounts : (entry kind input a (expiry (env.clock s.store.ticks) env.ttl)).isExpired
      (env.clock (s.storing env kind input reply a).store.ticks) = false :=
    decide_eq_false (Int.not_le.mpr hlive)
  rw [known?, kind_result, Cache.lookup_eq_some hfind hcounts]
  exact hdecode

/-- A later poll of a request whose answer has come and can be read. -/
theorem Waiting.poll_of_arrived (w : Waiting α) {c : Circumstances} {s : Course}
    (harrived : c.arrived w.earlier.length = true) {a : w.kind.Result}
    (hreadable : answer? c.env.provider w.kind w.input w.earlier = some a) :
    w.poll c s = (.ended (w.use (Answer.normalize a)),
      s.storing c.env w.kind w.input (c.env.provider w.earlier w.request) a) := by
  have hreceive : receive w.kind w.input (c.env.provider w.earlier w.request) c s =
      conclude w.kind w.input (some a) c ⟨s.store,
        .answered w.request (c.env.provider w.earlier w.request) :: s.events⟩ := by
    rw [← hreadable]
    rfl
  rw [Waiting.poll_apply, if_pos harrived, hreceive]
  rfl

/-- The first poll of an enquiry whose answer is in the cache. -/
theorem Enquiry.start_of_known {q : Enquiry α} (hinput : q.input? = some input)
    {c : Circumstances} {s : Course} {a : q.kind.Result}
    (hknown : known? q.kind.Result c.env s.store input = some a) :
    q.start c s = (.ended (q.use (Answer.normalize a)),
      ⟨⟨lookedUp q.kind.Result c.env s.store input, s.store.requests, s.store.ticks + 1⟩,
        .served q.kind input ⟨Answer.normalize a, true⟩ :: s.events⟩) := by
  rw [Enquiry.start_apply hinput, hknown]

/-- The first poll of an enquiry whose answer is not in the cache and has not come yet. -/
theorem Enquiry.start_of_unknown {q : Enquiry α} (hinput : q.input? = some input)
    {c : Circumstances} {s : Course} (hunknown : known? q.kind.Result c.env s.store input = none)
    (hwait : c.arrived s.store.requests.length = false) :
    q.start c s = (.waiting ⟨s.store.requests, q.kind, input, q.use⟩,
      ⟨⟨lookedUp q.kind.Result c.env s.store input, ⟨q.kind, input⟩ :: s.store.requests,
        s.store.ticks + 1⟩, .asked ⟨q.kind, input⟩ :: s.events⟩) := by
  rw [Enquiry.start_apply hinput, hunknown]
  simp only [Waiting.poll_apply, hwait, Bool.false_eq_true, if_false]

/-- The first poll of an enquiry whose answer is not in the cache and comes at once. -/
theorem Enquiry.start_of_arrived {q : Enquiry α} (hinput : q.input? = some input)
    {c : Circumstances} {s : Course} (hunknown : known? q.kind.Result c.env s.store input = none)
    (harrived : c.arrived s.store.requests.length = true) {a : q.kind.Result}
    (hreadable : answer? c.env.provider q.kind input s.store.requests = some a) :
    q.start c s = (.ended (q.use (Answer.normalize a)),
      Course.storing ⟨⟨lookedUp q.kind.Result c.env s.store input,
          ⟨q.kind, input⟩ :: s.store.requests, s.store.ticks + 1⟩,
          .asked ⟨q.kind, input⟩ :: s.events⟩
        c.env q.kind input (c.env.provider s.store.requests ⟨q.kind, input⟩) a) := by
  rw [Enquiry.start_apply hinput, hunknown]
  exact Waiting.poll_of_arrived _ harrived hreadable

end Enrichment

/-! ### Functions -/

namespace Expr

variable {c : Circumstances} {s s' : Course} {record : Record}

/-- The first poll of a function and its arguments. -/
theorem start_call {name : String} (hname : Text.upper name = name) (hif : name ≠ "IF")
    {f : StandardFunction} (hf : StandardFunction.find? name = some f) (args : List Expr) :
    start record (.call name args) =
      (do Task.call f record (← joinAll (starts record args))) := by
  rw [start]
  simp only [hname, if_neg hif, hf]

/-- Literals that are polled together. -/
theorem join_literals (patient : Bool) (vs : List Value) (hvs : ∀ v ∈ vs, isSpellable v = true) :
    join patient (starts record (vs.map .literal)) =
      pure (.ok (vs.map fun v => .done (.ok v))) := by
  induction vs with
  | nil => rfl
  | cons v rest ih =>
    rw [List.map_cons, starts, join, start, if_pos (hvs v List.mem_cons_self)]
    simp only [pure_bind, Task.hasEnded, Bool.not_true, Bool.and_false]
    rw [ih fun v' hv' => hvs v' (List.mem_cons_of_mem v hv')]
    rfl

/-- The first poll of a function that asks, of literals. -/
theorem start_enquiry {name : String} {enquiry : List Value → Record → Enquiry Value}
    (h : (name, enquiry) ∈ StandardFunction.enquiries) (vs : List Value)
    (hvs : ∀ v ∈ vs, isSpellable v = true) :
    start record (.call name (vs.map .literal)) = Task.ofState <$> (enquiry vs record).start := by
  obtain ⟨hname, hif, hlookup⟩ := StandardFunction.of_mem_enquiries h
  obtain ⟨f, hf, hfname, -⟩ := StandardFunction.exists_find?_of_mem
    (StandardFunction.mem_standard_of_mem_enquiries h)
  have hasks : f.enquiry? = some enquiry := by
    rw [StandardFunction.enquiry?, hfname, hname, hlookup]
  have happly : Task.apply f vs record = Task.ofState <$> (enquiry vs record).start := by
    unfold Task.apply
    rw [hasks]
  rw [start_call hname hif hf]
  funext c s
  rw [Polling.bind_apply]
  have hjoin : joinAll (starts record (vs.map .literal)) c s =
      (.ok (vs.map fun v => .done (.ok v)), s) :=
    congrFun₂ (join_literals (c.patient (starts record (vs.map .literal)).length) vs hvs) c s
  rw [hjoin, call_of_values, happly]

/-- The first poll of a function that asks for what the cache has. -/
theorem start_enquiry_of_known {name : String} {enquiry : List Value → Record → Enquiry Value}
    (h : (name, enquiry) ∈ StandardFunction.enquiries) (vs : List Value)
    (hvs : ∀ v ∈ vs, isSpellable v = true) {input : Json}
    (hinput : (enquiry vs record).input? = some input) {a : (enquiry vs record).kind.Result}
    (hknown : known? (enquiry vs record).kind.Result c.env s.store input = some a) :
    start record (.call name (vs.map .literal)) c s =
      (.done (.ok ((enquiry vs record).use (Answer.normalize a))),
        ⟨⟨lookedUp (enquiry vs record).kind.Result c.env s.store input, s.store.requests,
          s.store.ticks + 1⟩,
          .served (enquiry vs record).kind input ⟨Answer.normalize a, true⟩ :: s.events⟩) := by
  rw [start_enquiry h vs hvs, Polling.map_apply, Enquiry.start_of_known hinput hknown]
  rfl

/-- The first poll of a function that asks for what the cache has not, and whose answer has not come
yet. -/
theorem start_enquiry_of_unknown {name : String} {enquiry : List Value → Record → Enquiry Value}
    (h : (name, enquiry) ∈ StandardFunction.enquiries) (vs : List Value)
    (hvs : ∀ v ∈ vs, isSpellable v = true) {input : Json}
    (hinput : (enquiry vs record).input? = some input)
    (hunknown : known? (enquiry vs record).kind.Result c.env s.store input = none)
    (hwait : c.arrived s.store.requests.length = false) :
    start record (.call name (vs.map .literal)) c s =
      (.asking ⟨s.store.requests, (enquiry vs record).kind, input, (enquiry vs record).use⟩,
        ⟨⟨lookedUp (enquiry vs record).kind.Result c.env s.store input,
          ⟨(enquiry vs record).kind, input⟩ :: s.store.requests, s.store.ticks + 1⟩,
          .asked ⟨(enquiry vs record).kind, input⟩ :: s.events⟩) := by
  rw [start_enquiry h vs hvs, Polling.map_apply, Enquiry.start_of_unknown hinput hunknown hwait]
  rfl

/-- A later poll of a function that asks, whose answer has come and can be read. -/
theorem poll_asking_of_arrived (record : Record) (w : Waiting Value)
    (harrived : c.arrived w.earlier.length = true)
    {a : w.kind.Result} (hreadable : answer? c.env.provider w.kind w.input w.earlier = some a) :
    (Task.asking w).poll record c s = (.done (.ok (w.use (Answer.normalize a))),
      s.storing c.env w.kind w.input (c.env.provider w.earlier w.request) a) := by
  rw [Task.poll, Polling.map_apply, w.poll_of_arrived harrived hreadable]
  rfl

/-- The first poll of an operator whose left operand waits. -/
theorem start_binary_of_pending (op : Operator) {e : Expr} (e' : Expr) {t : Task}
    (he : start record e c s = (t, s')) (ht : t.pending ≠ []) :
    start record (.binary op e e') c s = (.left op t e', s') := by
  rw [start, Polling.bind_apply, he, Advances.andThen_of_pending ht]
  rfl

/-- The first poll of a division by zero whose left operand has a value. -/
theorem start_division_by_zero {e : Expr} {v : Value}
    (he : start record e c s = (.done (.ok v), s')) :
    start record (.binary .divide e (.literal (.number 0))) c s =
      (.done (.error .divisionByZero), s') := by
  rw [start, Polling.bind_apply, he]
  rfl

/-- The first poll of a function whose first argument fails. -/
theorem start_call_of_error {name : String} (hname : Text.upper name = name) (hif : name ≠ "IF")
    {f : StandardFunction} (hf : StandardFunction.find? name = some f) {e : Expr} (args : List Expr)
    {err : EvalError} (he : start record e c s = (.done (.error err), s')) :
    start record (.call name (e :: args)) c s =
      (.done (.error err), ⟨s'.store, s'.events⟩) := by
  have hnothing : (starts record args).flatMap Prod.fst = [] := by
    rw [starts_eq, List.flatMap_map]
    exact List.flatMap_eq_nil_iff.mpr fun _ _ => rfl
  have hjoin : ∀ patient, join patient (([], start record e) :: starts record args) c s =
      (.error err, s') := by
    intro patient
    rw [join, Polling.bind_apply, he, hnothing]
    rfl
  have hargs : joinAll (starts record (e :: args)) c s = (.error err, s') := hjoin _
  rw [start_call hname hif hf, Polling.bind_apply, hargs]
  rfl

/-- The first poll of a function whose first argument waits and whose second one fails. -/
theorem start_call_of_error_beside {name : String} (hname : Text.upper name = name)
    (hif : name ≠ "IF") {f : StandardFunction} (hf : StandardFunction.find? name = some f)
    {e e' : Expr} {t : Task} {s₁ : Course} {err : EvalError} (hpatient : c.patient 2 = false)
    (he : start record e c s = (t, s₁)) (ht : t.pending ≠ [])
    (he' : start record e' c s₁ = (.done (.error err), s')) :
    start record (.call name [e, e']) c s =
      (.done (.error err), ⟨s'.store, t.pending.map .dropped ++ s'.events⟩) := by
  have hlater : join false [([], start record e')] c s₁ = (.error err, s') := by
    rw [join, Polling.bind_apply, he']
    rfl
  have hargs : joinAll (starts record [e, e']) c s =
      (.error err, ⟨s'.store, t.pending.map .dropped ++ s'.events⟩) := by
    show join (c.patient 2) [([], start record e), ([], start record e')] c s = _
    simp only [hpatient, join_cons, Polling.bind_apply, he, joinAfter_of_pending ht,
      Bool.false_eq_true, if_false] at hlater ⊢
    rw [hlater]
    rfl
  rw [start_call hname hif hf, Polling.bind_apply, hargs]
  rfl

/-- Two computations that are polled together, neither of which fails. -/
theorem joinAll_pair {p p' : List Request × Polling Task} {t t' : Task} {s₁ : Course}
    (ht : ∀ e, t ≠ .done (.error e)) (ht' : ∀ e, t' ≠ .done (.error e))
    (h : p.2 c s = (t, s₁)) (h' : p'.2 c s₁ = (t', s')) :
    joinAll [p, p'] c s = (.ok [t, t'], s') := by
  have hsecond : ∀ patient, join patient [p'] c s₁ = (.ok [t'], s') := by
    intro patient
    rw [join_cons, Polling.bind_apply, h']
    cases t' with
    | done r =>
      cases r with
      | ok v => exact congrFun₂ (joinAfter_of_value v patient []) c s'
      | error e => exact (ht' e rfl).elim
    | _ => cases patient <;> rfl
  have hfirst : ∀ patient, join patient [p, p'] c s = (.ok [t, t'], s') := by
    intro patient
    have hbeside : (join patient [p'] >>= t.beside) c s₁ = (.ok [t, t'], s') := by
      rw [Polling.bind_apply, hsecond]
      rfl
    have hevery : ([p'].mapM Prod.snd >>= fun ts => pure (.ok (t :: ts))) c s₁ =
        ((.ok [t, t'], s') : Except EvalError (List Task) × Course) := by
      rw [List.mapM_cons, Polling.bind_apply, Polling.bind_apply, h']
      rfl
    rw [join_cons, Polling.bind_apply, h]
    cases t with
    | done r =>
      cases r with
      | ok v => rwa [joinAfter_of_value]
      | error e => exact (ht e rfl).elim
    | _ => cases patient with
      | false => exact hbeside
      | true => exact hevery
  exact hfirst _

/-- The first poll of a function with two arguments, neither of which fails. -/
theorem start_call_pair {name : String} (hname : Text.upper name = name) (hif : name ≠ "IF")
    {f : StandardFunction} (hf : StandardFunction.find? name = some f) {e e' : Expr} {t t' : Task}
    {s₁ : Course} (ht : ∀ e, t ≠ .done (.error e)) (ht' : ∀ e, t' ≠ .done (.error e))
    (he : start record e c s = (t, s₁)) (he' : start record e' c s₁ = (t', s')) :
    start record (.call name [e, e']) c s = Task.call f record (.ok [t, t']) c s' := by
  have hargs : joinAll (starts record [e, e']) c s = (.ok [t, t'], s') :=
    joinAll_pair ht ht' he he'
  rw [start_call hname hif hf, Polling.bind_apply, hargs]

/-- A later poll of a function with two arguments, neither of which fails. -/
theorem poll_arguments_pair (f : StandardFunction) {u u' t t' : Task} {s₁ : Course}
    (ht : ∀ e, t ≠ .done (.error e)) (ht' : ∀ e, t' ≠ .done (.error e))
    (hu : u.poll record c s = (t, s₁)) (hu' : u'.poll record c s₁ = (t', s')) :
    (Task.arguments f [u, u']).poll record c s = Task.call f record (.ok [t, t']) c s' := by
  have hargs : joinAll (Task.polls record [u, u']) c s = (.ok [t, t'], s') :=
    joinAll_pair ht ht' hu hu'
  rw [Task.poll, Polling.bind_apply, hargs]

end Expr

/-! ### Questions -/

/-- The first poll of the question of a tree. -/
theorem Query.start_tree (t : Expr) (record : Record) (c : Circumstances) (s : Course) :
    (Query.tree t record).start c s =
      (ofTask record (t.start record c s).1, (t.start record c s).2) := rfl

/-- The first poll of the question of a company. -/
theorem Query.start_company (name : String) (c : Circumstances) (s : Course) :
    (Query.company name).start c s =
      (ofState (((companyEnquiry name).map Outcome.company).start c s).1,
        (((companyEnquiry name).map Outcome.company).start c s).2) := rfl

/-- A later poll of the question of a company whose answer has come and can be read. -/
theorem Query.poll_service_of_arrived (w : Waiting Outcome) {c : Circumstances} {s : Course}
    (harrived : c.arrived w.earlier.length = true) {a : w.kind.Result}
    (hreadable : answer? c.env.provider w.kind w.input w.earlier = some a) :
    (Task.service w).poll c s = (.ended (w.use (Answer.normalize a)),
      s.storing c.env w.kind w.input (c.env.provider w.earlier w.request) a) := by
  rw [Task.poll, Polling.map_apply, w.poll_of_arrived harrived hreadable]
  rfl

namespace Engine

variable {env : Environment} {capacity : Nat} {g : Engine} {c : Circumstances} {s : Course}

/-- An engine that has been asked a question. -/
theorem after_start {q : Query} {t : Query.Task} (h : q.start c ⟨g.store, []⟩ = (t, s)) :
    g.after [] g.jobs (.single q) [] ((Call.single q).start c ⟨g.store, []⟩) =
      ⟨s.store, s.events ++ g.events, ⟨.single q, [t], s.events⟩ :: g.jobs⟩ := by
  have hcall : (Call.single q).start c ⟨g.store, []⟩ = ([t], s) := by
    rw [Call.start, Call.queries, List.mapM_cons, Polling.bind_apply, h]
    rfl
  rw [hcall]
  simp only [after, List.append_nil, List.nil_append]

/-- An engine that has gone on with a question. -/
theorem after_poll (before after : List Job) (call : Call) (events : List Event)
    {t t' : Query.Task} (h : t.poll c ⟨g.store, []⟩ = (t', s)) :
    g.after before after call events (Call.poll [t] c ⟨g.store, []⟩) =
      ⟨s.store, s.events ++ g.events, before ++ ⟨call, [t'], s.events ++ events⟩ :: after⟩ := by
  have hcall : Call.poll [t] c ⟨g.store, []⟩ = ([t'], s) := by
    rw [Call.poll, List.mapM_cons, Polling.bind_apply, h]
    rfl
  rw [hcall]
  rfl

/-- Asking an engine a question. -/
theorem Reachable.take (hg : Reachable env capacity g) (hc : c.env = env) {q : Query}
    {t : Query.Task} (h : q.start c ⟨g.store, []⟩ = (t, s)) : Reachable env capacity
      ⟨s.store, s.events ++ g.events, ⟨.single q, [t], s.events⟩ :: g.jobs⟩ := by
  rw [← after_start h]
  exact hg.step (.take c hc (.single q))

end Engine

/-! ### Answers that come late -/

/-- What a poll is given if the answer to every request comes between the poll in which the request
is made and the next one. -/
def Enrichment.Circumstances.late (env : Environment) (st : Store) : Circumstances :=
  ⟨env, fun n => decide (n < st.requests.length), fun _ => false⟩

namespace Engine

/-- What an engine can have come to if all answers come so late. -/
inductive Delayed (env : Environment) (capacity : Nat) : Engine → Prop
  /-- Nothing has happened yet. -/
  | initial : Delayed env capacity (initial capacity)
  /-- It takes a call and polls it for the first time. -/
  | take {g : Engine} (h : Delayed env capacity g) (call : Call) :
    Delayed env capacity
      (g.after [] g.jobs call [] (call.start (.late env g.store) ⟨g.store, []⟩))
  /-- It polls one of its calls again. -/
  | poll {g : Engine} (h : Delayed env capacity g) {before after : List Job} {job : Job}
      (hjobs : g.jobs = before ++ job :: after) :
    Delayed env capacity (g.after before after job.call job.events
      (Call.poll job.tasks (.late env g.store) ⟨g.store, []⟩))

namespace Delayed

variable {env : Environment} {capacity : Nat} {g : Engine} {s : Course}

/-- It can have come to this. -/
theorem reachable (h : Delayed env capacity g) : Reachable env capacity g := by
  induction h with
  | initial => exact .initial
  | take h call ih => exact ih.step (.take (.late env _) rfl call)
  | poll h hjobs ih => exact ih.step (.poll (.late env _) rfl hjobs)

/-- Asking it a question. -/
theorem start (hg : Delayed env capacity g) {q : Query} {t : Query.Task}
    (h : q.start (.late env g.store) ⟨g.store, []⟩ = (t, s)) : Delayed env capacity
      ⟨s.store, s.events ++ g.events, ⟨.single q, [t], s.events⟩ :: g.jobs⟩ := by
  rw [← after_start h]
  exact hg.take (.single q)

/-- Going on with its latest question. -/
theorem goOn {store : Store} {events jobEvents : List Event} {call : Call} {t t' : Query.Task}
    {rest : List Job} (hg : Delayed env capacity ⟨store, events, ⟨call, [t], jobEvents⟩ :: rest⟩)
    (h : t.poll (.late env store) ⟨store, []⟩ = (t', s)) : Delayed env capacity
      ⟨s.store, s.events ++ events, ⟨call, [t'], s.events ++ jobEvents⟩ :: rest⟩ := by
  have hjobs : (⟨call, [t], jobEvents⟩ : Job) :: rest = [] ++ ⟨call, [t], jobEvents⟩ :: rest := rfl
  have hafter := after_poll (g := ⟨store, events, ⟨call, [t], jobEvents⟩ :: rest⟩) [] rest call
    jobEvents h
  exact hafter ▸ hg.poll hjobs

end Delayed

end Engine

end RecordFormula
