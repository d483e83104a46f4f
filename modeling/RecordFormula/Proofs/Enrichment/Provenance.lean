import RecordFormula.Proofs.Enrichment.Queries

/-!
# Where stored answers come from

A provider may answer the same request in another way each time, or fail. Whatever an engine does,
what it has stored is what the provider answered last, and what it takes from the cache is the
answer to the request that it makes.

The requests here are those of a script, each of which is answered before the next one is made. An
engine that is polled makes requests while others are waited for, and the order that counts is then
that of the answers (`LatestAnswer`, `Engine.comes_from_provider`).

* `Latest` — the latest answer of a provider to a request.
* `Sourced` — an entry holds the latest answer to the request that it names. Every request preserves
  this of all entries (`sourced_enrich`), and so does every script (`Script.sourced_run`).
* `Script.consultations` — the requests of a script, each with the store from which it is made.
* **What is taken from the cache is the latest answer** (`value_of_cached`,
  `Script.value_of_cached`).
* **All entries and all cached results come from the provider** (`Script.provenance`).
-/

namespace RecordFormula

namespace Enrichment

/-! ### Answers of a provider -/

section answers

/-- The latest answer of a provider to a request, after the given requests. -/
inductive Latest (provider : Provider) (kind : Kind) (input : Json) :
    List Request → kind.Result → Prop
  /-- It is the answer to the last request. -/
  | last {earlier a} (h : answer? provider kind input earlier = some a) :
    Latest provider kind input (⟨kind, input⟩ :: earlier) a
  /-- It has come earlier, and the last request is another one or has not been answered. -/
  | earlier {r earlier a} (h : Latest provider kind input earlier a)
      (hr : r = ⟨kind, input⟩ → answer? provider kind input earlier = none) :
    Latest provider kind input (r :: earlier) a

/-- The entry is stored under the key of the request that it names, and it holds the latest answer
to this request, brought into range; it can be read again. -/
def Sourced (provider : Provider) (requests : List Request) (e : Entry) : Prop :=
  e.key = key e.kind e.input ∧ ∃ a, Latest provider e.kind e.input requests a ∧
    e.result = Answer.encode (Answer.normalize a) ∧
    Answer.decode? e.result = some (Answer.normalize a)

variable {env : Environment} {st : Store} {kind : Kind} {input : Json} {requests : List Request}
  {e : Entry}

/-- A request that has been answered has been made. -/
theorem Latest.mem {provider : Provider} {a : kind.Result}
    (h : Latest provider kind input requests a) : ⟨kind, input⟩ ∈ requests := by
  induction h with
  | last => exact List.mem_cons_self
  | earlier _ _ ih => exact List.mem_cons_of_mem _ ih

/-- There is one latest answer. -/
theorem Latest.unique {provider : Provider} {a b : kind.Result}
    (ha : Latest provider kind input requests a) (hb : Latest provider kind input requests b) :
    a = b := by
  induction ha with
  | @last earlier a h =>
    cases hb with
    | last h' => exact Option.some.inj (h.symm.trans h')
    | earlier _ hr =>
      rw [hr rfl] at h
      cases h
  | @earlier r earlier a _ hr ih =>
    cases hb with
    | last h' =>
      rw [hr rfl] at h'
      cases h'
    | earlier h' _ => exact ih h'

/-- An entry stays that of the latest answer when a request is made that is another one or is not
answered. -/
theorem Sourced.asked {provider : Provider} {r : Request} (h : Sourced provider requests e)
    (hr : r = ⟨e.kind, e.input⟩ → answer? provider e.kind e.input requests = none) :
    Sourced provider (r :: requests) e := by
  obtain ⟨hkey, a, hlatest, hresult⟩ := h
  exact ⟨hkey, a, hlatest.earlier hr, hresult⟩

end answers

/-! ### One request -/

section requests

variable {env : Environment} {st : Store} {kind : Kind} {input : Json}

/-- **A request stores nothing but the latest answer.** -/
theorem sourced_enrich (hbodies : env.provider.Proper)
    (h : ∀ e ∈ st.cache.entries, Sourced env.provider st.requests e) (kind : Kind) (input : Json) :
    ∀ e ∈ (enrich kind.Result input env st).2.cache.entries,
      Sourced env.provider (enrich kind.Result input env st).2.requests e := by
  have hspec := enrich_spec (α := kind.Result) env st input
  generalize enrich kind.Result input env st = p at hspec ⊢
  cases hspec with
  | hit known =>
    intro e he
    exact h e (Cache.mem_of_lookup he)
  | fallback unknown unanswered =>
    rw [provided?_eq] at unanswered
    rw [kind_result]
    intro e he
    refine (h e (Cache.mem_of_lookup he)).asked fun heq => ?_
    obtain ⟨rfl, rfl⟩ := Request.mk.inj heq
    exact unanswered
  | @stored a unknown provided =>
    rw [provided?_eq] at provided
    simp only [kind_result]
    intro e he
    rcases Cache.of_mem_store he with rfl | ⟨hold, hkey⟩
    · exact ⟨rfl, a, .last provided, rfl, decode?_encode_of_answer? hbodies provided⟩
    · -- an entry under another key is that of another request
      have hsourced := h e (Cache.mem_of_lookup hold)
      refine hsourced.asked fun heq => absurd ?_ hkey
      obtain ⟨rfl, rfl⟩ := Request.mk.inj heq
      exact hsourced.1

/-- **What is taken from the cache is the latest answer**, if no other request that has been made
has the same key. -/
theorem value_of_cached (h : ∀ e ∈ st.cache.entries, Sourced env.provider st.requests e)
    (hapart : ∀ r ∈ st.requests, key r.kind r.input = key kind input → r = ⟨kind, input⟩)
    (hcached : (enrich kind.Result input env st).1.cached = true) :
    ∃ a, Latest env.provider kind input st.requests a ∧
      (enrich kind.Result input env st).1.value = Answer.normalize a := by
  have hspec := enrich_spec (α := kind.Result) env st input
  generalize enrich kind.Result input env st = p at hspec hcached ⊢
  cases hspec with
  | fallback => cases hcached
  | stored => cases hcached
  | @hit b known =>
    obtain ⟨e, hlookup, hdecode⟩ := Option.bind_eq_some_iff.mp known
    rw [kind_result] at hlookup
    obtain ⟨hmem, hkey⟩ := Cache.of_find?_eq_some (Cache.of_lookup_eq_some hlookup).1
    obtain ⟨hsource, a, hlatest, -, hread⟩ := h e hmem
    obtain ⟨rfl, rfl⟩ := Request.mk.inj (hapart _ hlatest.mem (hsource.symm.trans hkey))
    obtain rfl : Answer.normalize a = b := Option.some.inj (hread.symm.trans hdecode)
    exact ⟨a, hlatest, LawfulAnswer.normalize_normalize a⟩

/-- **A request that fails stores nothing**, and its result is not said to come from the cache. -/
theorem fallback_of_unanswered (hcached : (enrich kind.Result input env st).1.cached = false)
    (hfailed : answer? env.provider kind input st.requests = none) :
    (enrich kind.Result input env st).1 = Enriched.fallback ∧
      (enrich kind.Result input env st).2.cache.entries ⊆ st.cache.entries := by
  have hspec := enrich_spec (α := kind.Result) env st input
  generalize enrich kind.Result input env st = p at hspec hcached ⊢
  cases hspec with
  | hit => cases hcached
  | fallback => exact ⟨rfl, fun e he => Cache.mem_of_lookup he⟩
  | stored unknown provided =>
    rw [provided?_eq, hfailed] at provided
    cases provided

end requests

/-! ### Scripts -/

/-- A request to the service, with the store from which it is made. -/
structure Consultation where
  /-- What is asked for. -/
  kind : Kind
  /-- What it is asked about. -/
  input : Json
  /-- What is left behind by all that came before. -/
  before : Store

/-- The request itself. -/
def Consultation.request (c : Consultation) : Request := ⟨c.kind, c.input⟩

/-- The result of a request, and what it leaves behind. -/
def Consultation.outcome (env : Environment) (c : Consultation) : Enriched c.kind.Result × Store :=
  enrich c.kind.Result c.input env c.before

namespace Script

variable {α β : Type} {env : Environment} {st : Store}

/-- The requests that a script makes to the service when it is run, from the first to the last. -/
def consultations (env : Environment) : Store → Script α → List Consultation
  | _, done _ => []
  | st, look next =>
    (next (env.clock st.ticks)).consultations env { st with ticks := st.ticks + 1 }
  | st, ask kind input next =>
    ⟨kind, input, st⟩ :: (next (enrich kind.Result input env st).1.value).consultations env
      (enrich kind.Result input env st).2

/-- These are the requests that the script asks for. -/
theorem map_request_consultations (s : Script α) (env : Environment) (st : Store) :
    (s.consultations env st).map Consultation.request = s.consulted env st := by
  induction s generalizing st with
  | done a => rfl
  | look next ih => exact ih _ _
  | ask kind input next ih => exact congrArg _ (ih _ _)

/-- A script stores nothing but the latest answers. -/
theorem sourced_run (hbodies : env.provider.Proper)
    (h : ∀ e ∈ st.cache.entries, Sourced env.provider st.requests e) (s : Script α) :
    ∀ e ∈ (s.run env st).2.cache.entries, Sourced env.provider (s.run env st).2.requests e := by
  induction s generalizing st with
  | done a => exact h
  | look next ih => exact ih _ h
  | ask kind input next ih => exact ih _ (sourced_enrich hbodies h kind input)

/-- **What a script gets from the cache is the latest answer**, if its requests are apart. -/
theorem value_of_cached (hbodies : env.provider.Proper)
    (h : ∀ e ∈ st.cache.entries, Sourced env.provider st.requests e) (s : Script α)
    (hapart : Apart (st.requests ++ s.consulted env st)) :
    ∀ c ∈ s.consultations env st, (c.outcome env).1.cached = true →
      ∃ a, Latest env.provider c.kind c.input c.before.requests a ∧
        (c.outcome env).1.value = Answer.normalize a := by
  induction s generalizing st with
  | done a =>
    intro c hc
    cases hc
  | look next ih => exact ih _ h hapart
  | ask kind input next ih =>
    intro c hc
    rw [consulted] at hapart
    rcases List.mem_cons.mp hc with rfl | hc
    · apply Enrichment.value_of_cached h
      intro r hr hkey
      exact hapart r (by simp [hr]) ⟨kind, input⟩ (by simp) hkey
    · refine ih _ (sourced_enrich hbodies h kind input) (hapart.mono ?_) c hc
      intro r hr
      rcases List.mem_append.mp hr with hr | hr
      · have hmade : r = ⟨kind, input⟩ ∨ r ∈ st.requests := by
          rcases requests_enrich (α := kind.Result) env st input with heq | heq <;> rw [heq] at hr
          · exact .inr hr
          · rw [kind_result] at hr
            exact List.mem_cons.mp hr
        rcases hmade with rfl | hmade
        · simp
        · exact List.mem_append_left _ hmade
      · exact List.mem_append_right _ (List.mem_cons_of_mem _ hr)

end Script

/-! ### Histories -/

/-- **All entries and all cached results come from the provider**, whatever it does, on an engine
that has not been used before. Calls one after the other, and requests of any input, are scripts.
When a script has been run,

* every entry is stored under the key of the request that it names, and holds the latest answer of
  the provider to just this request, brought into range; it can be read again;
* every result that is said to come from the cache is the latest answer to the request that was
  made, brought into range, if no two requests have the same key;
* every request that was made to the provider and has no answer gives the fallback, which is not
  said to come from the cache, and adds nothing to it. -/
theorem Script.provenance (env : Environment) (hbodies : env.provider.Proper) (capacity : Nat) :
    (∀ history : List Call, ∃ s : Script (List (List Outcome)),
      s.run = history.mapM Call.perform) ∧
    ∀ (α : Type) (s : Script α),
      let start := Store.initial capacity
      let final := (s.run env start).2
      (∀ e ∈ final.cache.entries, Sourced env.provider final.requests e) ∧
      (Apart ((s.consultations env start).map Consultation.request) →
        ∀ c ∈ s.consultations env start, (c.outcome env).1.cached = true →
          ∃ a, Latest env.provider c.kind c.input c.before.requests a ∧
            (c.outcome env).1.value = Answer.normalize a) ∧
      ∀ c ∈ s.consultations env start, (c.outcome env).1.cached = false →
        answer? env.provider c.kind c.input c.before.requests = none →
          (c.outcome env).1 = Enriched.fallback ∧
            (c.outcome env).2.cache.entries ⊆ c.before.cache.entries := by
  refine ⟨fun history => exists_run_eq_mapM Call.exists_script history, fun α s => ?_⟩
  intro start final
  have hstart : ∀ e ∈ start.cache.entries, Sourced env.provider start.requests e := by
    intro e he
    cases he
  refine ⟨sourced_run hbodies hstart s, fun hapart => ?_, fun c _ hcached hfailed => ?_⟩
  · rw [map_request_consultations] at hapart
    exact value_of_cached hbodies hstart s hapart
  · exact fallback_of_unanswered hcached hfailed

/-- A company that is asked about twice while the provider changes its mind: the second result comes
from the cache, and is the answer to the first request. -/
theorem Script.provenance_company :
    let provider : Provider := fun earlier _ =>
      .body (.object [("size", .text (if earlier.isEmpty then "Small" else "Large"))])
    let env : Environment := ⟨provider, fun _ => 0, 1000⟩
    let input : Json := .object [("name", .text "Acme")]
    let second : Consultation :=
      ⟨.companyInfo, input, (enrich CompanyProfile input env (Store.initial 5)).2⟩
    (second.outcome env).1.cached = true ∧ ∃ a : CompanyProfile,
      Latest provider .companyInfo input second.before.requests a ∧
        (second.outcome env).1.value = Answer.normalize a := by
  intro provider env input second
  have hbodies : provider.Proper := by
    intro earlier r j hbody
    obtain rfl := Reply.body.inj hbody
    refine .object fun p hp => ?_
    rw [List.mem_singleton.mp hp]
    exact .text _
  have hknown : known? CompanyProfile env second.before input = some ⟨"", "Small", 0.0⟩ := by
    let entry : Entry := ⟨key .companyInfo input, .companyInfo, input,
      Answer.encode (⟨"", "Small", 0.0⟩ : CompanyProfile), 1000⟩
    have hfind : second.before.cache.find? (key .companyInfo input) = some entry :=
      List.find?_cons_of_pos (beq_self_eq_true (key .companyInfo input))
    have hlookup : (second.before.cache.lookup 0 (key .companyInfo input)).1 = some entry :=
      Cache.lookup_eq_some hfind rfl
    show (second.before.cache.lookup 0 (key .companyInfo input)).1.bind _ = _
    rw [hlookup]
    rfl
  have hcached : (second.outcome env).1.cached = true := by
    show (enrich CompanyProfile input env second.before).1.cached = true
    rw [enrich_apply, hknown]
  let s : Script CompanyProfile := .ask .companyInfo input fun _ => .ask .companyInfo input .done
  have hapart : Apart ((s.consultations env (Store.initial 5)).map Consultation.request) := by
    intro p hp q hq _
    have hall : ∀ r ∈ (s.consultations env (Store.initial 5)).map Consultation.request,
        r = ⟨.companyInfo, input⟩ := by
      simp [s, consultations, Consultation.request]
    rw [hall p hp, hall q hq]
  have hmem : second ∈ s.consultations env (Store.initial 5) :=
    List.mem_cons_of_mem _ List.mem_cons_self
  obtain ⟨-, hresults, -⟩ := (Script.provenance env hbodies 5).2 CompanyProfile s
  exact ⟨hcached, hresults hapart second hmem hcached⟩

end Enrichment

end RecordFormula
