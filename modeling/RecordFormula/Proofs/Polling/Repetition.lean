import RecordFormula.Proofs.Polling.Retention
import RecordFormula.Proofs.Polling.Transparency

/-!
# Asking once

An evaluation that is repeated finds all its answers in the cache, if the provider had them the
first time, nothing has been pushed out or has expired, and the answers to the same request have
agreed. Its first poll ends it then, with the same outcome and without any request.

* `Replays` — a poll that ends with a given result, by what the cache holds.
* `Expr.Repeats` — the specification of a poll that is repeated: whatever can come of it by the
  answers that are held comes of it.
* **Every evaluation repeats** (`Expr.repeats_start`).
* `Expr.Attained` — what an evaluation can have come to that is polled alone.
* **The second evaluation makes no request** (`Expr.evaluate_again`).
* Where the answers do not agree it need not give the same (`Expr.evaluate_again_differs`).
-/

namespace RecordFormula

open Enrichment

/-! ### Repeated polls -/

section replays

variable {env : Environment} {last : Nat} {cache : Cache} {α β : Type}

/-- A store still holds what a cache has held. -/
def Enrichment.Keeps (env : Environment) (last : Nat) (cache : Cache) (st : Store) : Prop :=
  ∀ kind input v, Holds env last cache kind input v → Holds env last st.cache kind input v

/-- The poll ends with the result and makes no request, as long as everything that the cache has
held is held. -/
def Polling.Replays (env : Environment) (last : Nat) (cache : Cache) (p : Polling α) (a : α) :
    Prop :=
  ∀ c s, c.env = env → Keeps env last cache s.store → (p c s).2.store.ticks ≤ last →
    (p c s).1 = a ∧ (p c s).2.store.requests = s.store.requests ∧
      Keeps env last cache (p c s).2.store

namespace Polling.Replays

/-- A result that is there already. -/
theorem pure (a : α) : Replays env last cache (Pure.pure a) a :=
  fun _ _ _ hs _ => ⟨rfl, rfl, hs⟩

/-- One computation after the other. -/
theorem bind {p : Polling α} {a : α} (hp : Replays env last cache p a) {k : α → Polling β} {b : β}
    (hk : Replays env last cache (k a) b)
    (hticks : ∀ c s, (p c s).2.store.ticks ≤ ((p >>= k) c s).2.store.ticks) :
    Replays env last cache (p >>= k) b := by
  intro c s hc hs hlast
  obtain ⟨ha, hrequests, hkeeps⟩ := hp c s hc hs ((hticks c s).trans hlast)
  rw [Polling.bind_apply, ha] at hlast ⊢
  obtain ⟨hb, hrequests', hkeeps'⟩ := hk c _ hc hkeeps hlast
  exact ⟨hb, hrequests'.trans hrequests, hkeeps'⟩

/-- Changing the result. -/
theorem map {p : Polling α} {a : α} (hp : Replays env last cache p a) (f : α → β) :
    Replays env last cache (f <$> p) (f a) := by
  intro c s hc hs hlast
  obtain ⟨ha, hrest⟩ := hp c s hc hs hlast
  exact ⟨congrArg f ha, hrest⟩

end Polling.Replays

/-- An enquiry looks at the clock, if there is anything to ask. -/
theorem Enrichment.Enquiry.ticks_start (q : Enquiry α) {input : Json}
    (hinput : q.input? = some input) (c : Circumstances) (s : Course) :
    s.store.ticks < (q.start c s).2.store.ticks := by
  rw [Enquiry.start_apply hinput]
  cases known? q.kind.Result c.env s.store input with
  | some a => exact Nat.lt_succ_self _
  | none =>
    let w : Waiting α := ⟨s.store.requests, q.kind, input, q.use⟩
    exact Nat.lt_of_succ_le (w.runs_poll c ⟨⟨_, _ :: _, s.store.ticks + 1⟩, _ :: _⟩).grows.2.2

/-- What can come of an enquiry by the answers that are held comes of it. -/
theorem Enrichment.Enquiry.replays_start {q : Enquiry α} {a : α}
    (ha : a ∈ q.results (Holds env last cache)) :
    Polling.Replays env last cache q.start (.ended a) := by
  obtain ⟨b, hb, rfl⟩ := ha
  intro c s hc hs hlast
  unfold Enquiry.answers at hb
  cases hinput : q.input? with
  | none =>
    rw [hinput] at hb
    cases hb
    unfold Enquiry.start
    rw [hinput]
    exact ⟨rfl, rfl, hs⟩
  | some input =>
    rw [hinput] at hb
    subst hc
    have hticks := (q.ticks_start hinput c s).trans_le hlast
    obtain ⟨a, hknown, rfl⟩ := (hs _ _ _ hb).known hticks
    rw [Enquiry.start_of_known hinput hknown]
    exact ⟨rfl, rfl, fun kind i v hv => (hs kind i v hv).lookup hticks _⟩

end replays

/-! ### Evaluations -/

namespace Expr

section repeats

variable {env : Environment} {last : Nat} {cache : Cache} {record : Record}

/-- What a poll does, and what a poll does that is repeated: whatever can come of it by the answers
that are held comes of it, if no request is given up. -/
structure Repeats (env : Environment) (last : Nat) (cache : Cache) (record : Record)
    (p : Polling Task) (O : Answers → Prop → Outcomes Value) : Prop where
  /-- It advances. -/
  advances : Advances record p 0 O
  /-- What can come of it comes of it. -/
  replays : ∀ r ∈ O (Holds env last cache) False, Polling.Replays env last cache p (.done r)

/-- A poll of an evaluation does not turn the clock back. -/
theorem Advances.ticks {p : Polling Task} {before : Multiset Request}
    {O : Answers → Prop → Outcomes Value} (h : Advances record p before O) (c : Circumstances)
    (s : Course) : s.store.ticks ≤ (p c s).2.store.ticks :=
  (h.runs c s).grows.2.2

namespace Repeats

/-- It ends at once. -/
theorem done (r : Except EvalError Value) :
    Repeats env last cache record (pure (.done r)) fun _ _ => {r} := by
  refine ⟨Advances.done fun _ _ => rfl, ?_⟩
  intro r' hr
  cases hr
  exact .pure (Task.done r)

/-- One evaluation after the other. -/
theorem andThen {p : Polling Task} {O : Answers → Prop → Outcomes Value}
    (hp : Repeats env last cache record p O) {wait : Task → Task} {next : Value → Polling Task}
    {k : Answers → Prop → Value → Outcomes Value} (hpending : ∀ t, (wait t).pending = t.pending)
    (houtcomes : ∀ t K any, (wait t).outcomes K any record =
      (t.outcomes K any record).bind (k K any))
    (hnext : ∀ v, Repeats env last cache record (next v) fun K any => k K any v) :
    Repeats env last cache record (p >>= fun t => t.andThen wait next)
      fun K any => (O K any).bind (k K any) := by
  refine ⟨hp.advances.andThen hpending houtcomes fun v => (hnext v).advances, fun r hr => ?_⟩
  have hticks : ∀ c s, (p c s).2.store.ticks ≤
      ((p >>= fun t => t.andThen wait next) c s).2.store.ticks := by
    intro c s
    rw [Polling.bind_apply]
    cases (p c s).1 with
    | done r =>
      cases r with
      | ok v => exact (hnext v).advances.ticks c _
      | error e => exact Nat.le_refl _
    | _ => exact Nat.le_refl _
  cases hr with
  | ok ha hr => exact (hp.replays _ ha).bind ((hnext _).replays r hr) hticks
  | error he => exact (hp.replays _ he).bind (.pure _) hticks

end Repeats

/-- Putting a value before the values of others. -/
theorem replays_beside (v : Value) (r : Except EvalError (List Value)) :
    Polling.Replays env last cache ((Task.done (.ok v)).beside (Task.ofValues r))
      (Task.ofValues (r.map (v :: ·))) := by
  rintro c s - hs -
  cases r with
  | error e => exact ⟨rfl, rfl, hs⟩
  | ok vs => exact ⟨rfl, rfl, hs⟩

/-- Going on with others after a first poll does not turn the clock back. -/
theorem ticks_joinAfter (patient : Bool) {e : Expr} {rest : List Expr}
    {O : Expr → Answers → Prop → Outcomes Value} (he : Advances record (start record e) 0 (O e))
    (hrest : ∀ e' ∈ rest, Advances record (start record e') 0 (O e')) (c : Circumstances)
    (s : Course) : (start record e c s).2.store.ticks ≤
      ((start record e >>= joinAfter patient (rest.map fun e => ([], start record e)))
        c s).2.store.ticks := by
  have hothers := advancesAll_join (f := fun e => ([], start record e)) patient hrest
  have hafter := advancesAll_joinAfter hrest hothers (he.rests c s)
  exact (hafter.runs c _).grows.2.2

/-- Polling arguments together that repeat. -/
theorem replays_join (patient : Bool) {args : List Expr}
    (h : ∀ e ∈ args, Repeats env last cache record (start record e) fun K any =>
      e.outcomes K any record)
    {r : Except EvalError (List Value)}
    (hr : r ∈ Outcomes.joined False
      (args.map fun e => e.outcomes (Holds env last cache) False record)) :
    Polling.Replays env last cache (join patient (args.map fun e => ([], start record e)))
      (Task.ofValues r) := by
  induction args generalizing r with
  | nil =>
    cases hr
    exact .pure (Except.ok [])
  | cons e rest ih =>
    have he := h e List.mem_cons_self
    have hrest : ∀ e' ∈ rest, Repeats env last cache record (start record e') fun K any =>
        e'.outcomes K any record := fun e' he' => h e' (List.mem_cons_of_mem e he')
    have hticks := ticks_joinAfter patient he.advances fun e' he' => (hrest e' he').advances
    have hafter : ∀ v {r}, r ∈ Outcomes.joined False
        (rest.map fun e => e.outcomes (Holds env last cache) False record) →
          Polling.Replays env last cache
            (joinAfter patient (rest.map fun e => ([], start record e)) (.done (.ok v)))
            (Task.ofValues (r.map (v :: ·))) := by
      intro v r hr
      rw [joinAfter_of_value]
      exact (ih hrest hr).bind (replays_beside v r) fun c s =>
        (runs_beside (.done (.ok v)) _ c _).grows.2.2
    rw [List.map_cons, join_cons]
    cases hr with
    | ok ha has => exact (he.replays _ ha).bind (hafter _ has) hticks
    | error he' =>
      refine (he.replays _ he').bind (fun c s _ hs _ => ?_) hticks
      exact ⟨rfl, rfl, hs⟩
    | later hO he' =>
      obtain hfalse | ⟨a, ha⟩ := hO
      · exact hfalse.elim
      · exact (he.replays _ ha).bind (hafter _ he') hticks

/-- A function that does not look at the clock repeats. -/
theorem repeats_apply {f : StandardFunction}
    (hf : Text.upper f.name ≠ "NOW" ∧ Text.upper f.name ≠ "TODAY") (values : List Value)
    (record : Record) :
    Repeats env last cache record (Task.apply f values record)
      fun K _ => f.outcomes K values record := by
  refine ⟨advances_apply f values record, fun r hr => ?_⟩
  unfold StandardFunction.outcomes at hr
  unfold Task.apply
  cases hq : f.enquiry? with
  | some enquiry =>
    rw [hq] at hr
    obtain ⟨v, hv, rfl⟩ := hr
    exact (Enquiry.replays_start hv).map Task.ofState
  | none =>
    rw [hq] at hr
    obtain ⟨env', st, rfl⟩ := hr
    have hlocal := StandardFunction.isLocal hq
    generalize f.function = g at hlocal ⊢
    cases hlocal with
    | computes deferred g => exact fun _ _ _ hs _ => ⟨rfl, rfl, hs⟩
    | tells hname g => exact (hname.elim hf.1 hf.2).elim

/-- A function repeats with its arguments. -/
theorem repeats_arguments {args : List Expr}
    (h : ∀ e ∈ args, Repeats env last cache record (start record e) fun K any =>
      e.outcomes K any record)
    {f : StandardFunction} (hf : Text.upper f.name ≠ "NOW" ∧ Text.upper f.name ≠ "TODAY") :
    Repeats env last cache record (do Task.call f record (← joinAll (starts record args)))
      fun K any => (Outcomes.joined any (outcomesOf K any record args)).bind fun values =>
        f.outcomes K values record := by
  have hnothing : (args.flatMap fun _ => ([] : List Request)) = [] :=
    List.flatMap_eq_nil_iff.mpr fun _ _ => rfl
  have hadvances := advances_arguments (f := fun e => ([], start record e))
    (fun e he => (h e he).advances) f
  have hticks : ∀ c s, (joinAll (args.map fun e => ([], start record e)) c s).2.store.ticks ≤
      ((joinAll (args.map fun e => ([], start record e)) >>= Task.call f record)
        c s).2.store.ticks := by
    intro c s
    have hjoin := advancesAll_join (f := fun e => ([], start record e))
      (c.patient (args.map fun e => (([] : List Request), start record e)).length)
      fun e he => (h e he).advances
    exact (advances_call f record (hjoin.rests c s)).ticks c _
  rw [hnothing] at hadvances
  simp only [starts_eq, outcomesOf_eq]
  refine ⟨hadvances, fun r hr => ?_⟩
  have hjoin : ∀ r, r ∈ Outcomes.joined False
      (args.map fun e => e.outcomes (Holds env last cache) False record) →
        Polling.Replays env last cache (joinAll (args.map fun e => ([], start record e)))
          (Task.ofValues r) :=
    fun r hr c s hc hs hlast => replays_join _ h hr c s hc hs hlast
  cases hr with
  | @ok vs r hvs hr =>
    have hcall : Task.call f record (Task.ofValues (.ok vs)) = Task.apply f vs record :=
      call_of_values f record vs
    refine (hjoin _ hvs).bind ?_ hticks
    rw [hcall]
    exact (repeats_apply hf vs record).replays r hr
  | @error e he =>
    refine (hjoin _ he).bind ?_ hticks
    exact .pure (Task.done (.error e))

variable (record)

mutual

/-- **Every evaluation repeats** that does not depend on the clock: its first poll ends it with
whatever can come of it by the answers that are held. -/
theorem repeats_start : ∀ e : Expr, e.Timeless →
    Repeats env last cache record (start record e) fun K any => e.outcomes K any record
  | .literal v, _ => .done _
  | .field name, _ => .done _
  | .call name args, ht => by
    obtain ⟨hname, hargs⟩ : Untimed [Text.upper name] ∧ Untimed (functionNamesOf args) :=
      untimed_append.mp ht
    rw [start]
    simp only [outcomes]
    split_ifs with hif
    · exact (repeats_startAt 0 args hargs).andThen (fun t => rfl) (fun t K any => rfl) fun c =>
        repeats_startAt _ args hargs
    · cases hfind : StandardFunction.find? (Text.upper name) with
      | none => exact .done _
      | some f =>
        apply repeats_arguments (repeats_starts args hargs)
        rw [StandardFunction.name_of_find? hfind, Text.upper_upper]
        simpa [Untimed, eq_comm] using hname
  | .binary op left right, ht => by
    obtain ⟨hleft, hright⟩ : left.Timeless ∧ right.Timeless := untimed_append.mp ht
    rw [start]
    simp only [outcomes]
    exact (repeats_start left hleft).andThen (fun t => rfl) (fun t K any => rfl) fun a =>
      (repeats_start right hright).andThen (fun t => rfl) (fun t K any => rfl) fun b => .done _
  | .unary op operand, ht => by
    rw [start]
    simp only [outcomes]
    exact (repeats_start operand ht).andThen (fun t => rfl) (fun t K any => rfl) fun v => .done _

/-- So do those of a list of evaluations. -/
theorem repeats_starts : ∀ args : List Expr, Untimed (functionNamesOf args) → ∀ e ∈ args,
    Repeats env last cache record (start record e) fun K any => e.outcomes K any record
  | [], _, e, he => by cases he
  | e :: rest, ht, e', he' => by
    obtain ⟨he, hrest⟩ := untimed_append.mp ht
    rcases List.mem_cons.mp he' with heq | he'
    · rw [heq]
      exact repeats_start e he
    · exact repeats_starts rest hrest e' he'

/-- So does one of a list of evaluations. -/
theorem repeats_startAt (n : Nat) : ∀ args : List Expr, Untimed (functionNamesOf args) →
    Repeats env last cache record (startAt record n args) fun K any =>
      outcomesAt K any record n args
  | [], _ => .done _
  | e :: rest, ht => by
    obtain ⟨he, hrest⟩ := untimed_append.mp ht
    cases n with
    | zero => exact repeats_start e he
    | succ n => exact repeats_startAt n rest hrest

end

end repeats

/-! ### Evaluations that are polled alone -/

section reached

variable {env : Environment} {record : Record} {e : Expr} {st : Store}

/-- What an evaluation can have come to that is polled alone, from what is there at its start. -/
inductive Attained (env : Environment) (record : Record) (e : Expr) (st : Store) :
    Task → Course → Prop
  /-- It has been polled for the first time. -/
  | start {t : Task} {s : Course} (c : Circumstances) (hc : c.env = env)
      (hstart : e.start record c ⟨st, []⟩ = (t, s)) : Attained env record e st t s
  /-- It has been polled again. -/
  | poll {t t' : Task} {s s' : Course} (h : Attained env record e st t s) (c : Circumstances)
      (hc : c.env = env) (hpoll : t.poll record c s = (t', s')) : Attained env record e st t' s'

/-- A run leads to whatever an evaluation has come to. -/
theorem Attained.run {t : Task} {s : Course} (h : Attained env record e st t s) :
    Situation.Run env ⟨0, st, []⟩ ⟨t.pending, s⟩ := by
  induction h with
  | start c hc hstart =>
    subst hc
    have hrun := (advances_start record e).runs c ⟨st, []⟩
    rwa [hstart] at hrun
  | @poll t t' s s' _ c hc hpoll ih =>
    subst hc
    have hrun := (advances_poll record t).runs c s
    rw [hpoll] at hrun
    exact ih.trans hrun

/-- What has come of an evaluation can come of it, by the answers that it has got. -/
theorem Attained.outcomes_subset {t : Task} {s : Course} (h : Attained env record e st t s)
    {K : Answers} {any : Prop} (hfair : Fair K any s.events) :
    t.outcomes K any record ⊆ e.outcomes K any record := by
  induction h with
  | @start t s c hc hstart =>
    rw [show t = (e.start record c ⟨st, []⟩).1 by rw [hstart]]
    exact (advances_start record e).gives (by rwa [hstart])
  | @poll t t' s s' _ c hc hpoll ih =>
    have hrun := (advances_poll record t).runs c s
    rw [hpoll] at hrun
    rw [show t' = (t.poll record c s).1 by rw [hpoll]]
    exact ((advances_poll record t).gives (by rwa [hpoll])).trans (ih (hfair.of_run hrun))

/-- The answers of a provider that always answers alike agree. -/
theorem Attained.agreeing {t : Task} {s : Course} (h : Attained env record e st t s)
    {f : Request → Reply} (hf : env.provider = fun _ => f) : Agreeing s.events := by
  have hanswered := answered_run h.run fun r reply hr => by cases hr
  intro kind input reply reply' hr hr'
  obtain ⟨earlier, rfl⟩ := hanswered _ _ hr
  obtain ⟨earlier', rfl⟩ := hanswered _ _ hr'
  rw [hf]

/-- An evaluation that asks about the company `Acme` only, and is answered, leaves answers that
stay, if time stands still. -/
theorem Attained.lasting_acme {last : Nat} {t : Task} {s : Course}
    (h : Attained env record e (Store.initial 5) t s) (hclock : env.clock = fun _ => 0)
    (hanswers : ∀ earlier, ∃ j, env.provider earlier ⟨.companyInfo, acme⟩ = .body j ∧ j.Proper ∧
      (readable? .companyInfo (.body j)).isSome)
    (hrequest : ∀ event ∈ s.events, event.request = ⟨.companyInfo, acme⟩)
    (hkept : ∀ r, .dropped r ∉ s.events)
    (hstored : ∀ en, .stored en ∈ s.events → en.expiresAt = 1000)
    (hroom : s.store.requests.length ≤ 5) : Lasting env last (Store.initial 5) s where
  clock m n _ := by rw [hclock]
  kept := hkept
  answered kind input reply hmem := by
    cases hrequest _ hmem
    obtain ⟨earlier, rfl⟩ := answered_run h.run (fun r reply hr => by cases hr) _ _ hmem
    obtain ⟨j, hbody, hproper, hsome⟩ := hanswers earlier
    rw [hbody]
    exact ⟨j, rfl, hproper, hsome⟩
  old en hen := by cases hen
  stored en hen n _ := by
    rw [Entry.isExpired, hstored en hen, hclock]
    rfl
  room := by simpa [Store.initial, Cache.empty, Cache.size] using hroom
  apart := .of_forall_eq (List.forall_mem_map.mpr hrequest)

/-- **An evaluation that is repeated asks for nothing and gives the same**, be it a value or a
failure, whatever was in the cache and however the first evaluation was polled: its first poll ends
it. All requests of the first evaluation have been answered in time with documents that can be read,
and none has been given up; what counts at the start and what has been stored lasts until the second
evaluation ends; there is room for all answers; no two requests have the same cache key; and the
answers to the same request agree. -/
theorem evaluate_again (he : e.Timeless) {first : Except EvalError Value} {s₁ : Course}
    (hfirst : Attained env record e st (.done first) s₁) {c : Circumstances} (hc : c.env = env)
    {t : Task} {s₂ : Course} (hagain : e.start record c ⟨s₁.store, []⟩ = (t, s₂))
    (hlasting : Lasting env s₂.store.ticks st s₁) (hagree : Agreeing s₁.events) :
    t = .done first ∧ s₂.store.requests = s₁.store.requests := by
  have hticks : s₁.store.ticks ≤ s₂.store.ticks := by
    have hforward := (advances_start record e).ticks c ⟨s₁.store, []⟩
    rwa [hagain] at hforward
  have hfair : Fair (Holds env s₂.store.ticks s₁.store.cache) False s₁.events :=
    ⟨fun hserved => hlasting.holds hfirst.run hagree hticks hserved, .inr hlasting.kept⟩
  have hcan := hfirst.outcomes_subset hfair rfl
  obtain ⟨hresult, hrequests, -⟩ := (repeats_start record e he).replays first hcan c
    ⟨s₁.store, []⟩ hc (fun _ _ _ hv => hv) (by rw [hagain])
  rw [hagain] at hresult hrequests
  exact ⟨hresult, hrequests⟩

/-- A company that is asked about twice, and the provider once. -/
theorem evaluate_again_company :
    let e : Expr := .call "AI_DETECT_COMPANY" [.literal (.text "Acme")]
    let c : Circumstances := ⟨oneIndustry, fun _ => true, fun _ => false⟩
    ∃ s₁ t s₂, e.start [] c ⟨Store.initial 5, []⟩ = (.done (.ok (.text "Software")), s₁) ∧
      s₁.store.requests.length = 1 ∧ e.start [] c ⟨s₁.store, []⟩ = (t, s₂) ∧
      t = .done (.ok (.text "Software")) ∧ s₂.store.requests = s₁.store.requests := by
  intro e c
  let r : Request := ⟨.companyInfo, acme⟩
  let profile : CompanyProfile := ⟨"Software", "", 0⟩
  have hspelled : ∀ v ∈ [Value.text "Acme"], isSpellable v = true := by simp [isSpellable]
  have hreadable : answer? oneIndustry.provider .companyInfo acme [] = some profile := rfl
  have he : e.Timeless := by
    have hnames : functionNames e = ["AI_DETECT_COMPANY"] := by
      simp only [e, functionNames, functionNamesOf, List.append_nil]
      rw [Text.upper_of_lt (by decide)]
    rw [Timeless, hnames, Untimed]
    decide
  obtain ⟨s₁, hfirst, hrequests, result, reply, hevents⟩ : ∃ s : Course,
      e.start [] c ⟨Store.initial 5, []⟩ = (.done (.ok (.text "Software")), s) ∧
        s.store.requests = [r] ∧ ∃ result reply, s.events =
          [.served .companyInfo acme result, .stored (entry .companyInfo acme profile 1000),
            .answered r reply, .asked r] := by
    have hstart : e.start [] c ⟨Store.initial 5, []⟩ = _ := congrFun₂
      (start_enquiry mem_enquiries_detectCompany [.text "Acme"] hspelled) c ⟨Store.initial 5, []⟩
    rw [hstart, Polling.map_apply, Enquiry.start_of_arrived rfl rfl rfl hreadable]
    exact ⟨_, rfl, rfl, _, _, rfl⟩
  have hattained : Attained oneIndustry [] e (Store.initial 5)
      (.done (.ok (.text "Software"))) s₁ := .start c rfl hfirst
  cases hagain : e.start [] c ⟨s₁.store, []⟩ with
  | mk t s₂ =>
    have hlasting : Lasting oneIndustry s₂.store.ticks (Store.initial 5) s₁ := by
      refine hattained.lasting_acme rfl
        (fun earlier => ⟨_, rfl, proper_oneIndustry earlier r _ rfl, rfl⟩) ?_ ?_ ?_ ?_
      · rw [hevents]
        simp [Event.request, entry, r]
      · simp [hevents]
      · simp [hevents, entry]
      · simp [hrequests]
    obtain ⟨hresult, hnone⟩ :=
      evaluate_again he hattained rfl hagain hlasting (hattained.agreeing rfl)
    exact ⟨s₁, t, s₂, hfirst, congrArg List.length hrequests, hagain, hresult, hnone⟩

/-- What a provider answers about a company. -/
def facts (industry size : String) : Json :=
  .object [("industry", .text industry), ("size", .text size)]

/-- It is a document. -/
theorem proper_facts (industry size : String) : (facts industry size).Proper := by
  refine .object fun p hp => ?_
  simp only [List.mem_cons, List.not_mem_nil, or_false] at hp
  rcases hp with rfl | rfl <;> exact .text _

/-- An environment whose provider has another answer to every request but the first. -/
def changing : Environment :=
  ⟨fun earlier _ => .body (if earlier.isEmpty then facts "I1" "S1" else facts "I2" "S2"),
    fun _ => 0, 1000⟩

/-- `CONCAT(AI_DETECT_COMPANY("Acme"), AI_COMPANY_SIZE("Acme"))`, which asks for the same twice. -/
def askingTwice : Expr :=
  .call "CONCAT" [.call "AI_DETECT_COMPANY" [.literal (.text "Acme")],
    .call "AI_COMPANY_SIZE" [.literal (.text "Acme")]]

section askingTwice

/-- The formula does not depend on the clock. -/
theorem timeless_askingTwice : askingTwice.Timeless := by
  have hnames : functionNames askingTwice = ["CONCAT", "AI_DETECT_COMPANY", "AI_COMPANY_SIZE"] := by
    simp only [askingTwice, functionNames, functionNamesOf, List.append_nil, List.cons_append,
      List.nil_append]
    rw [Text.upper_of_lt (by decide), Text.upper_of_lt (by decide), Text.upper_of_lt (by decide)]
  rw [Timeless, hnames, Untimed]
  decide

/-- The function of the second argument asks for the size of a company. -/
theorem mem_enquiries_companySize :
    ("AI_COMPANY_SIZE", fun args _ =>
      (companyEnquiry (Arguments.text args 0)).map fun p => Value.text p.size) ∈
        StandardFunction.enquiries :=
  List.mem_cons_of_mem _ List.mem_cons_self

/-- `CONCAT` has its value when its arguments have theirs. -/
theorem call_concat {f : StandardFunction} (hf : StandardFunction.find? "CONCAT" = some f)
    (vs : List Value) (record : Record) :
    Task.call f record (.ok (vs.map fun v => .done (.ok v))) =
      pure (.done (.ok (Texts.join vs))) := by
  obtain ⟨f', hf', hname, hfunction⟩ := exists_concat
  obtain rfl := Option.some.inj (hf.symm.trans hf')
  have hlocal : f.enquiry? = none := by
    rw [StandardFunction.enquiry?, hname, Text.upper_of_lt (by decide)]
    decide
  rw [call_of_values]
  unfold Task.apply
  simp only [hlocal, hfunction]
  rfl

variable {c : Circumstances} {s : Course} {concat : StandardFunction}

/-- The tasks of the arguments, both of which wait for what is known about the company. -/
def waitingTwice : List Task :=
  [.asking ⟨[], .companyInfo, acme, fun p => .text p.industry⟩,
    .asking ⟨[⟨.companyInfo, acme⟩], .companyInfo, acme, fun p => .text p.size⟩]

/-- Before the company is in the cache, both arguments ask for it. -/
theorem start_askingTwice_of_unknown (hconcat : StandardFunction.find? "CONCAT" = some concat)
    (hwait : ∀ n, c.arrived n = false) :
    ∃ s, askingTwice.start [] c ⟨Store.initial 5, []⟩ = (.arguments concat waitingTwice, s) ∧
      s.store.requests = [⟨.companyInfo, acme⟩, ⟨.companyInfo, acme⟩] ∧
      s.events = [.asked ⟨.companyInfo, acme⟩, .asked ⟨.companyInfo, acme⟩] ∧
      s.store.cache.capacity = 5 := by
  have hpoll := start_call_pair (c := c) (s := ⟨Store.initial 5, []⟩)
    (Text.upper_of_lt (by decide)) (by decide) hconcat (by simp) (by simp)
    (start_acme_of_unknown mem_enquiries_detectCompany rfl (hwait _))
    (start_acme_of_unknown mem_enquiries_companySize rfl (hwait _))
  rw [call_of_pending concat [] (by simp [Task.pending])] at hpoll
  exact ⟨_, hpoll, rfl, rfl, rfl⟩

/-- What has become of an engine that has got both answers. -/
def informed (s : Course) : Course :=
  (s.storing changing .companyInfo acme (.body (facts "I1" "S1")) ⟨"I1", "S1", 0⟩).storing
    changing .companyInfo acme (.body (facts "I2" "S2")) ⟨"I2", "S2", 0⟩

/-- When both answers have come, each argument has the value of its own answer. -/
theorem poll_waitingTwice (hconcat : StandardFunction.find? "CONCAT" = some concat)
    {arrived patient : Nat → Bool} (harrived : arrived 0 = true) (harrived' : arrived 1 = true) :
    (Task.arguments concat waitingTwice).poll [] ⟨changing, arrived, patient⟩ s =
      (.done (.ok (.text "I1S2")), informed s) := by
  let c : Circumstances := ⟨changing, arrived, patient⟩
  let w : Waiting Value := ⟨[], .companyInfo, acme, fun p => .text p.industry⟩
  let w' : Waiting Value := ⟨[w.request], .companyInfo, acme, fun p => .text p.size⟩
  let s₁ := s.storing changing .companyInfo acme (.body (facts "I1" "S1")) ⟨"I1", "S1", 0⟩
  have hanswer : answer? changing.provider .companyInfo acme [] = some ⟨"I1", "S1", 0⟩ := rfl
  have hanswer' : answer? changing.provider .companyInfo acme [w.request] =
    some ⟨"I2", "S2", 0⟩ := rfl
  have hindustry := poll_asking_of_arrived (c := c) (s := s) [] w harrived hanswer
  have hsize := poll_asking_of_arrived (c := c) (s := s₁) [] w' harrived' hanswer'
  exact (poll_arguments_pair concat (by simp) (by simp) hindustry hsize).trans
    (congrFun₂ (call_concat hconcat [.text "I1", .text "S2"] []) c (informed s))

/-- The second answer is in the cache then. -/
theorem holds_informed (hroom : 0 < s.store.cache.capacity) (last : Nat) :
    Holds changing last (informed s).store.cache .companyInfo acme ⟨"I2", "S2", 0⟩ := by
  let p : CompanyProfile := ⟨"I2", "S2", 0⟩
  have hdecode : Answer.decode? (Answer.encode (Answer.normalize p)) = some (Answer.normalize p) :=
    LawfulAnswer.decode_encode_normalize (proper_facts "I2" "S2") rfl
  exact holds_store hroom (fun _ _ => rfl) hdecode

/-- When the second answer is in the cache, both arguments have it. -/
theorem start_askingTwice_of_holds (hconcat : StandardFunction.find? "CONCAT" = some concat)
    (hholds : ∀ last, Holds c.env last s.store.cache .companyInfo acme ⟨"I2", "S2", 0⟩) :
    ∃ s', askingTwice.start [] c s = (.done (.ok (.text "I2S2")), s') ∧
      s'.store.requests = s.store.requests := by
  obtain ⟨p, hknown, hp⟩ : ∃ p : CompanyProfile,
      known? CompanyProfile c.env s.store acme = some p ∧ Answer.normalize p = ⟨"I2", "S2", 0⟩ :=
    (hholds (s.store.ticks + 1)).known (Nat.lt_succ_self _)
  let st : Store :=
    ⟨lookedUp CompanyProfile c.env s.store acme, s.store.requests, s.store.ticks + 1⟩
  have hlooked : Holds c.env (st.ticks + 1) st.cache .companyInfo acme ⟨"I2", "S2", 0⟩ :=
    (hholds (s.store.ticks + 2)).lookup (by omega) _
  obtain ⟨p', hknown', hp'⟩ : ∃ p' : CompanyProfile,
      known? CompanyProfile c.env st acme = some p' ∧ Answer.normalize p' = ⟨"I2", "S2", 0⟩ :=
    hlooked.known (Nat.lt_succ_self _)
  have hpoll : askingTwice.start [] c s = _ :=
    (start_call_pair (Text.upper_of_lt (by decide)) (by decide) hconcat (by simp) (by simp)
      (start_acme_of_known mem_enquiries_detectCompany hknown)
      (start_acme_of_known mem_enquiries_companySize hknown')).trans
        (congrFun₂ (call_concat hconcat [_, _] []) c _)
  rw [hp, hp'] at hpoll
  exact ⟨_, hpoll, rfl⟩

end askingTwice

/-- **An evaluation that is repeated can give something else**, although all conditions on the
requests and the cache are met, if the answers to the same request differ: two arguments ask for it
before its first answer has come, and the second answer replaces the first one in the cache. Every
answer comes one poll late here. -/
theorem evaluate_again_differs :
    ∃ t s s₁ s₂, askingTwice.Timeless ∧
      askingTwice.start [] (.late changing (Store.initial 5)) ⟨Store.initial 5, []⟩ = (t, s) ∧
      t.poll [] (.late changing s.store) s = (.done (.ok (.text "I1S2")), s₁) ∧
      askingTwice.start [] (.late changing s₁.store) ⟨s₁.store, []⟩ =
        (.done (.ok (.text "I2S2")), s₂) ∧
      Lasting changing s₂.store.ticks (Store.initial 5) s₁ ∧
      s₁.store.requests.length = 2 ∧ s₂.store.requests = s₁.store.requests := by
  obtain ⟨concat, hconcat, -⟩ := exists_concat
  -- the first evaluation: both arguments ask, and both answers have come at the second poll
  obtain ⟨s, hstart, hrequests, hevents, hcapacity⟩ :=
    start_askingTwice_of_unknown (c := .late changing (Store.initial 5)) hconcat fun n => rfl
  have hpoll : (Task.arguments concat waitingTwice).poll [] (.late changing s.store) s = _ :=
    poll_waitingTwice hconcat (by simp [hrequests]) (by simp [hrequests])
  have hattained : Attained changing [] askingTwice (Store.initial 5)
      (.done (.ok (.text "I1S2"))) (informed s) :=
    (Attained.start _ rfl hstart).poll (.late changing s.store) rfl hpoll
  -- the second one: both arguments have the second answer
  have hroom : 0 < s.store.cache.capacity := by omega
  obtain ⟨s₂, hagain, hnone⟩ := start_askingTwice_of_holds
    (c := .late changing (informed s).store) (s := ⟨(informed s).store, []⟩) hconcat
      (holds_informed hroom)
  refine ⟨_, s, informed s, s₂, timeless_askingTwice, hstart, hpoll, hagain,
    hattained.lasting_acme rfl (fun earlier => ?_) ?_ ?_ ?_ ?_, congrArg List.length hrequests,
    hnone⟩
  · cases earlier <;> exact ⟨_, rfl, proper_facts .., rfl⟩
  · simp [informed, Course.storing, hevents, Event.request, entry]
  · simp [informed, Course.storing, hevents]
  · have hexpiry : expiry 0 1000 = 1000 := by decide
    simp [informed, Course.storing, hevents, entry, changing, hexpiry]
  · simp [informed, Course.storing, hrequests]

end reached

end Expr

end RecordFormula
