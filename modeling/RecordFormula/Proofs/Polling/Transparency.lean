import RecordFormula.Proofs.Polling.Agreement
import RecordFormula.Proofs.Polling.FirstPolls
import RecordFormula.Proofs.Polling.Provenance

/-!
# How far the cache shows

With a provider that always answers alike, a question has one answer, whatever has been asked
before, in which order, what has expired, has been pushed out or is waited for besides, and however
often the engine is polled. Only failures can differ: where several arguments of a call fail, the
first in time decides, and an argument whose answer is in the cache fails before one that waits.

* `settled` — the answer that a provider has to a request.
* **The service gives nothing but the answers of the provider**
  (`Engine.Reachable.value_of_served`).
* **Two engines give the same answer to a question, or different failures**
  (`Engine.answers_agree`); failures differ only after requests have been given up.
* The cache does show in failures (`Engine.failures_differ`).
-/

namespace RecordFormula

open Enrichment

/-! ### The answers of a provider -/

section settled

variable {f : Request → Reply} {kind : Kind} {input : Json}

/-- The answer to a request by a provider that always answers alike: in range, and the fallback if
there is none that can be read. -/
def Enrichment.settled (f : Request → Reply) (kind : Kind) (input : Json) : kind.Result :=
  ((readable? kind (f ⟨kind, input⟩)).map Answer.normalize).getD Answer.fallback

/-- The answer that has been read. -/
theorem Enrichment.settled_of_readable {a : kind.Result}
    (h : readable? kind (f ⟨kind, input⟩) = some a) :
    settled f kind input = Answer.normalize a := by
  rw [settled, h]
  rfl

/-- The fallback. -/
theorem Enrichment.settled_of_unreadable (h : readable? kind (f ⟨kind, input⟩) = none) :
    settled f kind input = Answer.fallback := by
  rw [settled, h]
  rfl

end settled

namespace Engine

variable {f : Request → Reply} {env env' : Environment} {capacity capacity' : Nat} {g g' : Engine}

/-- **The service gives nothing but the answers of the provider**, be it from the cache or not. -/
theorem Reachable.value_of_served (hf : env.provider = fun _ => f) (hg : Reachable env capacity g)
    (hapart : Apart (g.events.map Event.request)) {kind : Kind} {input : Json}
    {result : Enriched kind.Result} (h : .served kind input result ∈ g.events) :
    result.value = settled f kind input := by
  have hanswered : ∀ {r reply}, .answered r reply ∈ g.events → reply = f r := by
    intro r reply hmem
    obtain ⟨earlier, rfl⟩ := hg.answered hmem
    rw [hf]
  obtain ⟨later, earlier, hevents⟩ := List.append_of_mem h
  have hsuffix : .served kind input result :: earlier <:+ g.events := ⟨later, hevents.symm⟩
  have hbefore : earlier ⊆ g.events := ((List.suffix_cons _ _).trans hsuffix).subset
  cases hg.justified hapart kind input result earlier hsuffix with
  | recalled hlatest =>
    obtain ⟨reply, hmem, hreadable⟩ := hlatest.exists_answered
    obtain rfl := hanswered (hbefore hmem)
    exact (settled_of_readable hreadable).symm
  | stored htaken hreadable =>
    obtain rfl := hanswered (hbefore (htaken ▸ List.mem_cons_of_mem _ List.mem_cons_self))
    exact (settled_of_readable hreadable).symm
  | failed htaken hunreadable =>
    obtain rfl := hanswered (hbefore (htaken ▸ List.mem_cons_self))
    exact (settled_of_unreadable hunreadable).symm

/-- The answers of a provider that always answers alike. -/
theorem Reachable.fair (hf : env.provider = fun _ => f) (hg : Reachable env capacity g)
    (hapart : Apart (g.events.map Event.request)) {job : Job} (hjob : job ∈ g.jobs) {any : Prop}
    (hany : (∃ r, .dropped r ∈ job.events) → any) :
    Fair (fun kind input a => a = settled f kind input) any job.events where
  served hmem := hg.value_of_served hf hapart ((hg.follows job hjob).1 hmem)
  kept := by
    by_cases hdropped : ∃ r, .dropped r ∈ job.events
    · exact .inl (hany hdropped)
    · exact .inr (not_exists.mp hdropped)

end Engine

/-! ### One company -/

section company

/-- An environment whose provider knows one industry. -/
def oneIndustry : Environment :=
  ⟨fun _ _ => .body (.object [("industry", .text "Software")]), fun _ => 0, 1000⟩

/-- All its answers are documents. -/
theorem proper_oneIndustry : oneIndustry.provider.Proper := by
  intro earlier r j hj
  obtain rfl := Reply.body.inj hj
  refine .object fun p hp => ?_
  obtain rfl := List.mem_singleton.mp hp
  exact .text _

/-- What the service asks the provider about the company `Acme`. -/
def acme : Json := .object [("name", .text "Acme")]

/-- An engine that has been asked about the company, and whose answer has come one poll later, has
the answer and knows it. -/
theorem Engine.exists_delayed_company :
    ∃ g job, Delayed oneIndustry 5 g ∧ g.jobs = [job] ∧ job.call = .single (.company "Acme") ∧
      job.Answered (.company "Acme") (.company ⟨"Software", "", 0⟩) ∧
      known? CompanyProfile oneIndustry g.store acme = some ⟨"Software", "", 0⟩ ∧
      ∀ event ∈ g.events, event.request = ⟨.companyInfo, acme⟩ := by
  let q : Query := .company "Acme"
  let profile : CompanyProfile := ⟨"Software", "", 0⟩
  let enquiry : Enquiry Outcome := (companyEnquiry "Acme").map Outcome.company
  let w : Waiting Outcome := ⟨[], .companyInfo, acme, enquiry.use⟩
  -- the first poll makes the request
  obtain ⟨s, hstart, hrequests, hroom, hevents⟩ : ∃ s : Course,
      q.start (.late oneIndustry (Store.initial 5)) ⟨Store.initial 5, []⟩ = (.service w, s) ∧
        s.store.requests = [w.request] ∧ s.store.cache.capacity = 5 ∧
          s.events = [.asked w.request] := by
    rw [Query.start_company, enquiry.start_of_unknown rfl rfl rfl]
    exact ⟨_, rfl, rfl, rfl, rfl⟩
  -- the second one takes the answer
  have hreadable : answer? oneIndustry.provider .companyInfo acme [] = some profile := rfl
  have hdecode := decode?_encode_of_answer? proper_oneIndustry hreadable
  have harrived : (Circumstances.late oneIndustry s.store).arrived 0 = true := by
    simp [Circumstances.late, hrequests]
  let s' : Course := Course.storing ⟨s.store, []⟩ oneIndustry .companyInfo acme
    (oneIndustry.provider [] w.request) profile
  have hpoll : (Query.Task.service w).poll (.late oneIndustry s.store) ⟨s.store, []⟩ =
      (.ended (.company profile), s') := Query.poll_service_of_arrived w harrived hreadable
  have hknown : known? CompanyProfile oneIndustry s'.store acme = some profile :=
    known?_storing (Nat.lt_of_lt_of_eq (by decide) hroom.symm) hdecode
      (show (0 : Int) < expiry 0 1000 by decide)
  refine ⟨_, _, (Delayed.initial.start hstart).goOn hpoll, rfl, rfl, List.mem_cons_self, hknown,
    fun event hevent => ?_⟩
  simp only [s', Course.storing, initial, hevents, List.append_nil, List.cons_append,
    List.nil_append, List.mem_cons, List.not_mem_nil, or_false] at hevent
  rcases hevent with rfl | rfl | rfl | rfl <;> rfl

end company

namespace Engine

/-! ### Agreement -/

variable {f : Request → Reply} {env env' : Environment} {capacity capacity' : Nat} {g g' : Engine}

/-- **Every question gets an answer.** If all answers have come, the next poll of a call answers all
its questions. -/
theorem Reachable.exists_answers (hg : Reachable env capacity g) {job : Job} (hjob : job ∈ g.jobs)
    (c : Circumstances) (hc : c.env = env) (hprompt : c.Prompt) :
    ∃ g', Step env g g' ∧ ∃ job' ∈ g'.jobs, job'.call = job.call ∧
      ∀ q ∈ job'.call.queries, ∃ o, job'.Answered q o := by
  obtain ⟨before, after, hjobs⟩ := List.append_of_mem hjob
  obtain ⟨os, hos⟩ := Call.ends_poll hprompt job.tasks ⟨g.store, []⟩
  have hstep : Step env g (g.after before after job.call job.events
      (Call.poll job.tasks c ⟨g.store, []⟩)) := .poll c hc hjobs
  refine ⟨_, hstep, _, List.mem_append_right _ List.mem_cons_self, rfl, fun q hq => ?_⟩
  have hfollows := ((hg.step hstep).follows _ (List.mem_append_right _ List.mem_cons_self)).2
  have hlength := (hfollows (fun _ _ _ => True) True ⟨fun _ => trivial, .inl trivial⟩).length_eq
  obtain ⟨n, hn, rfl⟩ := List.mem_iff_getElem.mp hq
  unfold Job.Answered
  simp only [hos, List.length_map] at hn hlength ⊢
  refine ⟨os[n], List.mem_iff_getElem.mpr ⟨n, ?_, ?_⟩⟩
  · rw [List.length_zip, List.length_map, ← hlength, min_self]
    exact hn
  · rw [List.getElem_zip, List.getElem_map]

/-- **The cache shows in failures only.** Two engines whose providers always give the same answers
answer a question that does not depend on the clock alike, or both of them fail: whatever they can
hold, for how long, at what time they are asked, what they have been asked before, alone or in a
batch, which callers have gone away, and in which order answers come. Failures differ only where
requests have been given up on behalf of one of the calls. And every question is answered, with the
next poll after all answers have come. -/
theorem answers_agree (hf : env.provider = fun _ => f) (hf' : env'.provider = fun _ => f)
    (hg : Reachable env capacity g) (hg' : Reachable env' capacity' g')
    (hapart : Apart (g.events.map Event.request)) (hapart' : Apart (g'.events.map Event.request))
    {job job' : Job} (hjob : job ∈ g.jobs) (hjob' : job' ∈ g'.jobs) :
    (∀ q o o', q.Timeless → job.Answered q o → job'.Answered q o' →
      o = o' ∨ o.Fails ∧ o'.Fails ∧ ∃ r, .dropped r ∈ job.events ∨ .dropped r ∈ job'.events) ∧
    ∀ c : Circumstances, c.env = env → c.Prompt →
      ∃ next, Step env g next ∧ ∃ ended ∈ next.jobs, ended.call = job.call ∧
        ∀ q ∈ ended.call.queries, ∃ o, ended.Answered q o := by
  let K : Answers := fun kind input a => a = settled f kind input
  have hsettled : K.Settled := fun kind input a b ha hb => ha.trans hb.symm
  refine ⟨fun q o o' hq ho ho' => ?_, hg.exists_answers hjob⟩
  have hfair : Fair K (∃ r, .dropped r ∈ job.events ∨ .dropped r ∈ job'.events) job.events :=
    hg.fair hf hapart hjob fun ⟨r, hr⟩ => ⟨r, .inl hr⟩
  have hfair' : Fair K (∃ r, .dropped r ∈ job.events ∨ .dropped r ∈ job'.events) job'.events :=
    hg'.fair hf' hapart' hjob' fun ⟨r, hr⟩ => ⟨r, .inr hr⟩
  have hcan := (hg.follows job hjob).2.mem_outcomes hfair ho
  have hcan' := (hg'.follows job' hjob').2.mem_outcomes hfair' ho'
  rcases Query.definite_outcomes hsettled hq hcan hcan' with heq | ⟨hdropped, hfails, hfails'⟩
  · exact .inl heq
  · exact .inr ⟨hfails, hfails', hdropped⟩

/-- A company that is asked about twice: the second answer is taken from the cache, and it is the
first one. -/
theorem answers_agree_company :
    ∃ g g' : Engine, Reachable oneIndustry 5 g ∧ Reachable oneIndustry 5 g' ∧
      ∃ job ∈ g.jobs, ∃ job' ∈ g'.jobs, job'.events.length = 1 ∧
        ∃ o o', job.Answered (.company "Acme") o ∧ job'.Answered (.company "Acme") o' ∧ o = o' := by
  let c : Circumstances := ⟨oneIndustry, fun _ => false, fun _ => false⟩
  obtain ⟨g, job, hdelayed, hjobs, -, ho, hknown, hevents⟩ := exists_delayed_company
  have hg := hdelayed.reachable
  have hjob : job ∈ g.jobs := by
    rw [hjobs]
    exact List.mem_cons_self
  let enquiry : Enquiry Outcome := (companyEnquiry "Acme").map Outcome.company
  have hinput : enquiry.input? = some acme := rfl
  obtain ⟨o, s, hstart, hlength, hrequest⟩ : ∃ o s,
      (Query.company "Acme").start c ⟨g.store, []⟩ = (.ended o, s) ∧ s.events.length = 1 ∧
        ∀ event ∈ s.events, event.request = ⟨.companyInfo, acme⟩ := by
    rw [Query.start_company, enquiry.start_of_known (c := c) (s := ⟨g.store, []⟩) hinput hknown]
    exact ⟨_, _, rfl, rfl, List.forall_mem_singleton.mpr rfl⟩
  have hg' := hg.take (c := c) rfl hstart
  have hapart : Apart (g.events.map Event.request) :=
    .of_forall_eq (List.forall_mem_map.mpr hevents)
  have hapart' : Apart ((s.events ++ g.events).map Event.request) :=
    .of_forall_eq (List.forall_mem_map.mpr fun event hevent =>
      (List.mem_append.mp hevent).elim (hrequest event) (hevents event))
  refine ⟨g, _, hg, hg', job, hjob, _, List.mem_cons_self, ?_, _, o, ho, List.mem_cons_self, ?_⟩
  · simpa using hlength
  · have hagree := (answers_agree rfl rfl hg hg' hapart hapart' hjob List.mem_cons_self).1
      (.company "Acme") _ o trivial ho List.mem_cons_self
    rcases hagree with heq | ⟨⟨e, he⟩, -⟩
    · exact heq
    · cases he

end Engine

/-! ### What the cache shows -/

namespace Expr

section company

variable {c : Circumstances} {s : Course} {name : String} {use : CompanyProfile → Value}

/-- `AI_DETECT_COMPANY` asks for the industry of a company. -/
theorem mem_enquiries_detectCompany :
    ("AI_DETECT_COMPANY", fun args _ =>
      (companyEnquiry (Arguments.text args 0)).map fun p => Value.text p.industry) ∈
        StandardFunction.enquiries :=
  List.mem_cons_self

/-- A function that asks about the company, if this is in the cache. -/
theorem start_acme_of_known
    (h : (name, fun args _ => (companyEnquiry (Arguments.text args 0)).map use) ∈
      StandardFunction.enquiries) {p : CompanyProfile}
    (hknown : known? CompanyProfile c.env s.store acme = some p) :
    start [] (.call name [.literal (.text "Acme")]) c s =
      (.done (.ok (use (Answer.normalize p))),
        ⟨⟨lookedUp CompanyProfile c.env s.store acme, s.store.requests, s.store.ticks + 1⟩,
          .served .companyInfo acme ⟨Answer.normalize p, true⟩ :: s.events⟩) :=
  start_enquiry_of_known h [.text "Acme"] (by simp [isSpellable]) rfl hknown

/-- A function that asks about the company, if this is not in the cache and the answer has not come
yet. -/
theorem start_acme_of_unknown
    (h : (name, fun args _ => (companyEnquiry (Arguments.text args 0)).map use) ∈
      StandardFunction.enquiries)
    (hunknown : known? CompanyProfile c.env s.store acme = none)
    (hwait : c.arrived s.store.requests.length = false) :
    start [] (.call name [.literal (.text "Acme")]) c s =
      (.asking ⟨s.store.requests, .companyInfo, acme, use⟩,
        ⟨⟨lookedUp CompanyProfile c.env s.store acme, ⟨.companyInfo, acme⟩ :: s.store.requests,
          s.store.ticks + 1⟩, .asked ⟨.companyInfo, acme⟩ :: s.events⟩) :=
  start_enquiry_of_unknown h [.text "Acme"] (by simp [isSpellable]) rfl hunknown hwait

/-- `CONCAT` is a function. -/
theorem exists_concat : ∃ f, StandardFunction.find? "CONCAT" = some f ∧ f.name = "CONCAT" ∧
    f.function = Function.pure Texts.join :=
  StandardFunction.exists_find?_of_mem
    (show ("CONCAT", Function.pure Texts.join) ∈ Function.standard by
      simp [Function.standard, Function.texts])

end company

/-- `CONCAT(AI_DETECT_COMPANY("Acme") / 0, NOSUCH())`, both arguments of which fail. -/
def failingTwice : Expr :=
  .call "CONCAT" [.binary .divide (.call "AI_DETECT_COMPANY" [.literal (.text "Acme")])
    (.literal (.number 0)), .call "NOSUCH" []]

section failingTwice

/-- The formula does not depend on the clock. -/
theorem timeless_failingTwice : failingTwice.Timeless := by
  have hnames : functionNames failingTwice = ["CONCAT", "AI_DETECT_COMPANY", "NOSUCH"] := by
    simp only [failingTwice, functionNames, functionNamesOf, List.append_nil, List.cons_append,
      List.nil_append]
    rw [Text.upper_of_lt (by decide), Text.upper_of_lt (by decide), Text.upper_of_lt (by decide)]
  rw [Timeless, hnames, Untimed]
  decide

variable {c : Circumstances} {s : Course}

/-- `NOSUCH` is none. -/
theorem start_nosuch : (call "NOSUCH" []).start record c s =
    (.done (.error (.unknownFunction "NOSUCH")), s) := by
  have hnone : StandardFunction.find? "NOSUCH" = none := by
    have hstandard : Registry.standard.find? "NOSUCH" = none := by
      by_contra hsome
      obtain ⟨f, hf⟩ := Option.ne_none_iff_exists'.mp hsome
      have hmem := Registry.mem_of_find?_standard hf
      rw [Text.upper_of_lt (by decide)] at hmem
      simp [Function.standard, Function.aggregates, Function.texts, Function.conditions,
        Function.dates, Function.leads] at hmem
    rw [← StandardFunction.function_of_find?] at hstandard
    exact Option.map_eq_none_iff.mp hstandard
  have hupper : Text.upper "NOSUCH" = "NOSUCH" := Text.upper_of_lt (by decide)
  rw [start, hupper, if_neg (by decide)]
  simp only [hnone]
  rfl

/-- If the company is not in the cache and its industry has not come yet, the second argument fails
first. -/
theorem start_failingTwice_of_unknown (hpatient : c.patient 2 = false)
    (hunknown : known? CompanyProfile c.env s.store acme = none)
    (hwait : c.arrived s.store.requests.length = false) :
    ∃ s', failingTwice.start [] c s = (.done (.error (.unknownFunction "NOSUCH")), s') ∧
      ∀ event ∈ s'.events, event.request = ⟨.companyInfo, acme⟩ ∨ event ∈ s.events := by
  obtain ⟨concat, hconcat, -⟩ := exists_concat
  have hratio : start [] (.binary .divide (.call "AI_DETECT_COMPANY" [.literal (.text "Acme")])
      (.literal (.number 0))) c s = _ :=
    start_binary_of_pending .divide _
      (start_acme_of_unknown mem_enquiries_detectCompany hunknown hwait) (List.cons_ne_nil _ _)
  have hcall := start_call_of_error_beside (Text.upper_of_lt (by decide)) (by decide) hconcat
    hpatient hratio (List.cons_ne_nil _ _) start_nosuch
  refine ⟨_, hcall, fun event hevent => ?_⟩
  rcases List.mem_cons.mp hevent with rfl | hevent
  · exact .inl rfl
  · rcases List.mem_cons.mp hevent with rfl | hevent
    · exact .inl rfl
    · exact .inr hevent

/-- If the company is in the cache, the first argument fails first. -/
theorem start_failingTwice_of_known {profile : CompanyProfile}
    (hknown : known? CompanyProfile c.env s.store acme = some profile) :
    ∃ s', failingTwice.start [] c s = (.done (.error .divisionByZero), s') ∧
      ∀ event ∈ s'.events, event.request = ⟨.companyInfo, acme⟩ ∨ event ∈ s.events := by
  obtain ⟨concat, hconcat, -⟩ := exists_concat
  have hratio : start [] (.binary .divide (.call "AI_DETECT_COMPANY" [.literal (.text "Acme")])
      (.literal (.number 0))) c s = _ :=
    start_division_by_zero (start_acme_of_known mem_enquiries_detectCompany hknown)
  have hcall := start_call_of_error (Text.upper_of_lt (by decide)) (by decide) hconcat
    [.call "NOSUCH" []] hratio
  refine ⟨_, hcall, fun event hevent => ?_⟩
  rcases List.mem_cons.mp hevent with rfl | hevent
  · exact .inl rfl
  · exact .inr hevent

end failingTwice

end Expr

namespace Engine

/-- **The cache shows in failures.** On an engine that has been asked about the company before, the
formula fails in another way than on a fresh one, although the provider always answers alike, and
always one poll late. -/
theorem failures_differ :
    let q : Query := .tree Expr.failingTwice []
    q.Timeless ∧ ∃ g g' : Engine, Delayed oneIndustry 5 g ∧ Delayed oneIndustry 5 g' ∧
      Apart (g.events.map Event.request) ∧ Apart (g'.events.map Event.request) ∧
      (∃ job, g.jobs = [job] ∧
        job.Answered q (.value (.error (.failed (.unknownFunction "NOSUCH"))))) ∧
      ∃ job history, g'.jobs = [job, history] ∧ history.call = .single (.company "Acme") ∧
        job.Answered q (.value (.error (.failed .divisionByZero))) := by
  intro q
  have hapart : ∀ events : List Event, (∀ event ∈ events, event.request = ⟨.companyInfo, acme⟩) →
      Apart (events.map Event.request) := fun events h =>
    .of_forall_eq (List.forall_mem_map.mpr h)
  -- on a fresh engine the first argument waits, and the second one fails
  obtain ⟨s, hsecond, hevents⟩ := Expr.start_failingTwice_of_unknown
    (c := .late oneIndustry (Store.initial 5)) (s := ⟨Store.initial 5, []⟩) rfl rfl rfl
  have hfresh : q.start (.late oneIndustry (Store.initial 5)) ⟨Store.initial 5, []⟩ =
      (.ended (.value (.error (.failed (.unknownFunction "NOSUCH")))), s) := by
    rw [Query.start_tree, hsecond]
    rfl
  have hg : Delayed oneIndustry 5 _ := Delayed.initial.start hfresh
  -- on the other one the company is in the cache, and the first argument fails at once
  obtain ⟨g₁, history, hg₁, hjobs, hcall, -, hknown, hevents₁⟩ := exists_delayed_company
  obtain ⟨s', hfirst, hevents'⟩ := Expr.start_failingTwice_of_known
    (c := .late oneIndustry g₁.store) (s := ⟨g₁.store, []⟩) hknown
  have hlater : q.start (.late oneIndustry g₁.store) ⟨g₁.store, []⟩ =
      (.ended (.value (.error (.failed .divisionByZero))), s') := by
    rw [Query.start_tree, hfirst]
    rfl
  refine ⟨?_, _, _, hg, hg₁.start hlater, hapart _ ?_, hapart _ ?_,
    ⟨_, rfl, List.mem_cons_self⟩, _, history, congrArg _ hjobs, hcall, List.mem_cons_self⟩
  · exact Expr.timeless_failingTwice
  · simpa [initial] using hevents
  · intro event hevent
    rcases List.mem_append.mp hevent with hevent | hevent
    · simpa using hevents' event hevent
    · exact hevents₁ event hevent

end Engine

end RecordFormula
