import RecordFormula.Proofs.Polling.Engines

/-!
# Where answers come from, in the order in which they come

While the answer to a request is waited for, other requests are made and answered, the same request
among them. What an engine has stored is what it was answered last, in the order in which the
answers were taken, and what it takes from the cache is the answer to the request that it makes.

* `LatestAnswer` — the latest answer to a request that could be read, by what has happened.
* `Recorded` — an entry holds the latest answer to the request that it names. Whatever an engine
  does preserves this of all entries (`recorded_step`).
* `Source` — where a result that the service gives comes from; **every result has a source**
  (`justified_run`).
* **All answers are answers of the provider** (`answered_run`).
* **All entries and all results come from the provider, whatever is polled and in whatever order**
  (`Engine.comes_from_provider`).
-/

namespace RecordFormula

namespace Enrichment

open Situation (Step Run)

/-! ### Answers -/

section answers

variable {kind : Kind} {input : Json} {events : List Event} {a b : kind.Result} {e : Entry}

/-- The document that answers a request, if it has come in time and can be read. -/
def readable? (kind : Kind) (reply : Reply) : Option kind.Result := reply.body?.bind Answer.decode?

/-- The latest answer to a request that could be read, by what has happened. -/
inductive LatestAnswer (kind : Kind) (input : Json) : List Event → kind.Result → Prop
  /-- It has just been taken. -/
  | last {reply earlier a} (h : readable? kind reply = some a) :
    LatestAnswer kind input (.answered ⟨kind, input⟩ reply :: earlier) a
  /-- It has been taken before, and what has just happened is no such answer. -/
  | earlier {event earlier a} (h : LatestAnswer kind input earlier a)
      (hevent : ∀ reply, event = .answered ⟨kind, input⟩ reply → readable? kind reply = none) :
    LatestAnswer kind input (event :: earlier) a

/-- The latest answer has been taken. -/
theorem LatestAnswer.exists_answered (h : LatestAnswer kind input events a) :
    ∃ reply, .answered ⟨kind, input⟩ reply ∈ events ∧ readable? kind reply = some a := by
  induction h with
  | last h => exact ⟨_, List.mem_cons_self, h⟩
  | earlier _ _ ih =>
    obtain ⟨reply, hreply, ha⟩ := ih
    exact ⟨reply, List.mem_cons_of_mem _ hreply, ha⟩

/-- There is one latest answer. -/
theorem LatestAnswer.unique (ha : LatestAnswer kind input events a)
    (hb : LatestAnswer kind input events b) : a = b := by
  induction ha with
  | last h =>
    cases hb with
    | last h' => exact Option.some.inj (h.symm.trans h')
    | earlier _ hevent =>
      rw [hevent _ rfl] at h
      cases h
  | earlier _ hevent ih =>
    cases hb with
    | last h' =>
      rw [hevent _ rfl] at h'
      cases h'
    | earlier h' _ => exact ih h'

/-- The entry is stored under the key of the request that it names, and it holds the latest answer
to this request, brought into range. -/
def Recorded (events : List Event) (e : Entry) : Prop :=
  e.key = key e.kind e.input ∧
    ∃ a, LatestAnswer e.kind e.input events a ∧ e.result = Answer.encode (Answer.normalize a)

/-- An entry stays that of the latest answer when something happens that is no answer to its
request. -/
theorem Recorded.earlier {event : Event} (h : Recorded events e)
    (hevent : ∀ reply, event = .answered ⟨e.kind, e.input⟩ reply → readable? e.kind reply = none) :
    Recorded (event :: events) e := by
  obtain ⟨hkey, a, hlatest, hresult⟩ := h
  exact ⟨hkey, a, hlatest.earlier hevent, hresult⟩

/-- So it does when something happens that is no answer at all. -/
theorem Recorded.beside {event : Event} (h : Recorded events e)
    (hevent : ∀ r reply, event ≠ .answered r reply) : Recorded (event :: events) e :=
  h.earlier fun reply heq => absurd heq (hevent _ reply)

/-- Where a result that the service gives comes from, by what has happened before. -/
inductive Source (kind : Kind) (input : Json) (earlier : List Event) :
    Enriched kind.Result → Prop
  /-- From the cache: it is the latest answer. -/
  | recalled {a : kind.Result} (h : LatestAnswer kind input earlier a) :
    Source kind input earlier ⟨Answer.normalize a, true⟩
  /-- From the provider: its answer has just been taken and stored. -/
  | stored {reply : Reply} {a : kind.Result} {e : Entry} {before : List Event}
      (hevents : earlier = .stored e :: .answered ⟨kind, input⟩ reply :: before)
      (h : readable? kind reply = some a) : Source kind input earlier ⟨Answer.normalize a, false⟩
  /-- From nowhere: what has just been taken could not be read, or has not come in time. -/
  | failed {reply : Reply} {before : List Event}
      (hevents : earlier = .answered ⟨kind, input⟩ reply :: before)
      (h : readable? kind reply = none) : Source kind input earlier Enriched.fallback

end answers

/-! ### Steps -/

section steps

variable {env : Environment} {σ σ' : Situation}

/-- **A step stores nothing but the latest answer.** -/
theorem recorded_step (h : Step env σ σ')
    (hσ : ∀ e ∈ σ.course.store.cache.entries, Recorded σ.course.events e) :
    ∀ e ∈ σ'.course.store.cache.entries, Recorded σ'.course.events e := by
  intro e he
  cases h with
  | look => exact hσ e he
  | recalled => exact (hσ e (Cache.mem_of_lookup he)).beside fun _ _ h => by cases h
  | asked => exact (hσ e (Cache.mem_of_lookup he)).beside fun _ _ h => by cases h
  | failed unreadable =>
    refine ((hσ e he).earlier fun reply heq => ?_).beside fun _ _ h => by cases h
    obtain ⟨hrequest, rfl⟩ := Event.answered.inj heq
    obtain ⟨rfl, rfl⟩ := Request.mk.inj hrequest
    exact unreadable
  | @stored w s kind input earlier a readable =>
    have hrecorded : Recorded
        (.answered ⟨kind, input⟩ (env.provider earlier ⟨kind, input⟩) :: s.events) e := by
      rcases Cache.of_mem_store he with rfl | ⟨hold, hkey⟩
      · exact ⟨rfl, a, .last readable, rfl⟩
      · -- an entry under another key is that of another request
        refine (hσ e hold).earlier fun reply heq => absurd ?_ hkey
        obtain ⟨hrequest, -⟩ := Event.answered.inj heq
        obtain ⟨rfl, rfl⟩ := Request.mk.inj hrequest
        exact (hσ e hold).1
    refine (hrecorded.beside ?_).beside ?_
    · rintro r reply ⟨⟩
    · rintro r reply ⟨⟩
  | dropped => exact (hσ e he).beside fun _ _ h => by cases h

/-- So does a run. -/
theorem recorded_run (h : Run env σ σ')
    (hσ : ∀ e ∈ σ.course.store.cache.entries, Recorded σ.course.events e) :
    ∀ e ∈ σ'.course.store.cache.entries, Recorded σ'.course.events e := by
  induction h with
  | refl => exact hσ
  | tail _ hstep ih => exact recorded_step hstep ih

/-- **What is found in the cache is the latest answer**, if no other request has the same key. -/
theorem latestAnswer_of_known {s : Course} {kind : Kind} {input : Json} {a : kind.Result}
    (hs : ∀ e ∈ s.store.cache.entries, Recorded s.events e)
    (hapart : ∀ event ∈ s.events, key event.request.kind event.request.input = key kind input →
      event.request = ⟨kind, input⟩)
    (hknown : known? kind.Result env s.store input = some a) :
    ∃ b, LatestAnswer kind input s.events b ∧ a = Answer.normalize b := by
  obtain ⟨e, hlookup, hdecode⟩ := Option.bind_eq_some_iff.mp hknown
  rw [kind_result] at hlookup
  obtain ⟨hmem, hkey⟩ := Cache.of_find?_eq_some (Cache.of_lookup_eq_some hlookup).1
  obtain ⟨hsource, b, hlatest, hresult⟩ := hs e hmem
  obtain ⟨reply, hanswered, -⟩ := hlatest.exists_answered
  obtain ⟨rfl, rfl⟩ := Request.mk.inj (hapart _ hanswered (hsource.symm.trans hkey))
  rw [hresult] at hdecode
  exact ⟨b, hlatest, LawfulAnswer.decode_encode _ _ hdecode⟩

/-- All results that the service has given have a source. -/
def Justified (events : List Event) : Prop :=
  ∀ kind input result earlier, .served kind input result :: earlier <:+ events →
    Source kind input earlier result

/-- They still have when something happens that is no result. -/
theorem Justified.beside {event : Event} {events : List Event} (h : Justified events)
    (hevent : ∀ kind input result, event ≠ .served kind input result) :
    Justified (event :: events) := by
  intro kind input result earlier hsuffix
  rcases List.suffix_cons_iff.mp hsuffix with heq | hsuffix
  · exact absurd (List.cons.inj heq).1.symm (hevent kind input result)
  · exact h kind input result earlier hsuffix

/-- They still have when a result is given that has one. -/
theorem Justified.served {kind : Kind} {input : Json} {result : Enriched kind.Result}
    {events : List Event} (h : Justified events) (hsource : Source kind input events result) :
    Justified (.served kind input result :: events) := by
  intro kind' input' result' earlier hsuffix
  rcases List.suffix_cons_iff.mp hsuffix with heq | hsuffix
  · cases heq
    exact hsource
  · exact h kind' input' result' earlier hsuffix

/-- **A step gives no result but one that has a source**, if no two requests have the same key. -/
theorem justified_step (h : Step env σ σ')
    (hσ : ∀ e ∈ σ.course.store.cache.entries, Recorded σ.course.events e)
    (hapart : Apart (σ'.course.events.map Event.request)) (hjust : Justified σ.course.events) :
    Justified σ'.course.events := by
  cases h with
  | look => exact hjust
  | @recalled w s kind input a known =>
    obtain ⟨b, hlatest, rfl⟩ := latestAnswer_of_known hσ (fun event hevent hkey =>
      hapart _ (List.mem_cons_of_mem _ (List.mem_map_of_mem hevent)) ⟨kind, input⟩
        List.mem_cons_self hkey) known
    rw [LawfulAnswer.normalize_normalize]
    exact hjust.served (.recalled hlatest)
  | asked => exact hjust.beside fun _ _ _ h => by cases h
  | failed unreadable =>
    refine (hjust.beside ?_).served (.failed rfl unreadable)
    rintro _ _ _ ⟨⟩
  | stored readable =>
    refine ((hjust.beside ?_).beside ?_).served (.stored rfl readable)
    · rintro _ _ _ ⟨⟩
    · rintro _ _ _ ⟨⟩
  | dropped => exact hjust.beside fun _ _ _ h => by cases h

/-- So does a run. -/
theorem justified_run (h : Run env σ σ')
    (hσ : ∀ e ∈ σ.course.store.cache.entries, Recorded σ.course.events e)
    (hapart : Apart (σ'.course.events.map Event.request)) (hjust : Justified σ.course.events) :
    Justified σ'.course.events := by
  induction h with
  | refl => exact hjust
  | tail hrun hstep ih =>
    have hevents := (hstep.grows.1.map Event.request).subset
    exact justified_step hstep (recorded_run hrun hσ) hapart (ih (hapart.mono hevents))

/-- What a step takes as an answer is an answer of the provider. -/
theorem answered_step (h : Step env σ σ') {r : Request} {reply : Reply}
    (hmem : .answered r reply ∈ σ'.course.events) :
    .answered r reply ∈ σ.course.events ∨ ∃ earlier, reply = env.provider earlier r := by
  cases h with
  | look => exact .inl hmem
  | recalled | asked | dropped =>
    rcases List.mem_cons.mp hmem with heq | hmem
    · cases heq
    · exact .inl hmem
  | failed =>
    rcases List.mem_cons.mp hmem with heq | hmem
    · cases heq
    · rcases List.mem_cons.mp hmem with heq | hmem
      · cases heq
        exact .inr ⟨_, rfl⟩
      · exact .inl hmem
  | stored =>
    rcases List.mem_cons.mp hmem with heq | hmem
    · cases heq
    · rcases List.mem_cons.mp hmem with heq | hmem
      · cases heq
      · rcases List.mem_cons.mp hmem with heq | hmem
        · cases heq
          exact .inr ⟨_, rfl⟩
        · exact .inl hmem

/-- **All answers are answers of the provider.** -/
theorem answered_run (h : Run env σ σ')
    (hσ : ∀ r reply, .answered r reply ∈ σ.course.events →
      ∃ earlier, reply = env.provider earlier r) :
    ∀ r reply, .answered r reply ∈ σ'.course.events →
      ∃ earlier, reply = env.provider earlier r := by
  induction h with
  | refl => exact hσ
  | tail _ hstep ih =>
    intro r reply hmem
    rcases answered_step hstep hmem with hold | hnew
    · exact ih r reply hold
    · exact hnew

end steps

end Enrichment

open Enrichment

/-! ### Engines -/

namespace Engine

variable {env : Environment} {capacity : Nat} {g : Engine}

/-- All entries of an engine are those of latest answers. -/
theorem Reachable.recorded (hg : Reachable env capacity g) :
    ∀ e ∈ g.store.cache.entries, Recorded g.events e :=
  recorded_run hg.run fun e he => by cases he

/-- All results of an engine have a source, if no two requests have the same key. -/
theorem Reachable.justified (hg : Reachable env capacity g)
    (hapart : Apart (g.events.map Event.request)) : Justified g.events := by
  refine justified_run hg.run (fun e he => ?_) hapart fun kind input result earlier hsuffix => ?_
  · cases he
  · cases List.suffix_nil.mp hsuffix

/-- All answers that an engine takes are answers of the provider. -/
theorem Reachable.answered (hg : Reachable env capacity g) {r : Request} {reply : Reply}
    (hmem : .answered r reply ∈ g.events) : ∃ earlier, reply = env.provider earlier r :=
  answered_run hg.run (fun r reply hmem => by cases hmem) r reply hmem

/-- **All entries and all results come from the provider**, whatever it does, whatever an engine is
asked, and in whatever order the answers come while others are waited for.

* Every entry is stored under the key of the request that it names, and holds the latest answer of
  the provider to just this request, in the order in which answers are taken, brought into range; it
  can be read again.
* Every result has a source, if no two requests have the same key. One that is said to come from the
  cache is the latest answer to the request that was made, brought into range. Any other is the
  answer to the request that has just been taken, or, if this cannot be read or has not come in
  time, the fallback, and then nothing has been stored. -/
theorem comes_from_provider (env : Environment) (hbodies : env.provider.Proper) (capacity : Nat)
    (g : Engine) (hg : Reachable env capacity g) :
    (∀ e ∈ g.store.cache.entries, Recorded g.events e ∧
      ∃ a : e.kind.Result, Answer.decode? e.result = some a ∧ e.result = Answer.encode a) ∧
    (Apart (g.events.map Event.request) → Justified g.events) ∧
    ∀ r reply, .answered r reply ∈ g.events → ∃ earlier, reply = env.provider earlier r := by
  refine ⟨fun e he => ⟨hg.recorded e he, ?_⟩, hg.justified, fun r reply hmem => hg.answered hmem⟩
  obtain ⟨-, a, hlatest, hresult⟩ := hg.recorded e he
  obtain ⟨reply, hmem, hreadable⟩ := hlatest.exists_answered
  obtain ⟨earlier, rfl⟩ := hg.answered hmem
  refine ⟨Answer.normalize a, ?_, hresult⟩
  rw [hresult]
  exact decode?_encode_of_answer? hbodies hreadable

end Engine

end RecordFormula
