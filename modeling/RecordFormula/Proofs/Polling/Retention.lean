import RecordFormula.Proofs.Polling.Provenance

/-!
# What stays in the cache

If all requests are answered, there is room for the answers, and none of them expires, then what has
been served is in the cache in the end, provided that the answers to the same request agree. Where
two answers to one request are waited for at the same time, the later one replaces the earlier one.

* `Lasts`, `Holds` — an answer counts until a given time, and the cache has such an answer.
* `Lasting` — the conditions under which answers stay: those of an evaluation that is worth
  repeating.
* `Agreeing` — the answers to the same request agree.
* `Retains` — everything that has been served is held; every step preserves this (`retains_step`).
* **What has been served is held** (`Lasting.holds`).
-/

namespace RecordFormula

namespace Enrichment

open Situation (Step Run)

/-! ### Answers that are held -/

section held

variable {env : Environment} {last : Nat} {st : Store} {cache : Cache} {kind : Kind} {input : Json}
  {v : kind.Result}

/-- The answer counts whenever the clock is looked at before the given time. -/
def Lasts (env : Environment) (last : Nat) (e : Entry) : Prop :=
  ∀ n < last, e.isExpired (env.clock n) = false

/-- The cache has an answer to a request, which lasts. -/
def Holds (env : Environment) (last : Nat) (cache : Cache) (kind : Kind) (input : Json)
    (v : kind.Result) : Prop :=
  ∃ e a, cache.find? (key kind input) = some e ∧ Lasts env last e ∧
    Answer.decode? e.result = some a ∧ Answer.normalize a = v

/-- A cache that has the same under the key holds the same. -/
theorem Holds.of_find?_eq {cache' : Cache} (h : Holds env last cache kind input v)
    (heq : cache'.find? (key kind input) = cache.find? (key kind input)) :
    Holds env last cache' kind input v := by
  obtain ⟨e, a, hfind, hrest⟩ := h
  exact ⟨e, a, heq.trans hfind, hrest⟩

/-- Looking up any key at a time at which an answer counts leaves it where it is. -/
theorem Holds.lookup (h : Holds env last cache kind input v) {n : Nat} (hn : n < last)
    (k : String) : Holds env last (cache.lookup (env.clock n) k).2 kind input v := by
  obtain ⟨e, a, hfind, hlasts, hdecode⟩ := h
  refine ⟨e, a, ?_, hlasts, hdecode⟩
  by_cases hk : key kind input = k
  · subst hk
    exact Cache.find?_lookup_of_some (Cache.lookup_eq_some hfind (hlasts n hn))
  · rw [Cache.find?_lookup hk, hfind]

/-- Looking up any key does not add anything. -/
theorem Holds.of_lookup {now : Int} {k : String}
    (h : Holds env last (cache.lookup now k).2 kind input v) :
    Holds env last cache kind input v := by
  obtain ⟨e, a, hfind, hrest⟩ := h
  refine ⟨e, a, ?_, hrest⟩
  by_cases hk : key kind input = k
  · subst hk
    rw [Cache.find?_lookup_self] at hfind
    exact (Cache.of_lookup_eq_some hfind).1
  · rwa [Cache.find?_lookup hk] at hfind

/-- What the cache holds is known. -/
theorem Holds.known (h : Holds env last st.cache kind input v) (hn : st.ticks < last) :
    ∃ a, known? kind.Result env st input = some a ∧ Answer.normalize a = v := by
  obtain ⟨e, a, hfind, hlasts, hdecode, hv⟩ := h
  refine ⟨a, ?_, hv⟩
  rw [known?, kind_result, Cache.lookup_eq_some hfind (hlasts _ hn)]
  exact hdecode

section store

variable {now : Int} {ttl : Nat} {a : kind.Result}

/-- An answer that is added and lasts is held. -/
theorem holds_store (hpos : 0 < cache.capacity)
    (hlasts : Lasts env last (entry kind input a (expiry now ttl)))
    (hdecode : Answer.decode? (Answer.encode (Answer.normalize a)) = some (Answer.normalize a)) :
    Holds env last (cache.store now ttl (entry kind input a 0)) kind input (Answer.normalize a) :=
  ⟨entry kind input a (expiry now ttl), _, Cache.find?_store_self hpos, hlasts, hdecode,
    LawfulAnswer.normalize_normalize a⟩

/-- What is held for a request after its answer has been added is the answer. -/
theorem Holds.eq_of_store (hpos : 0 < cache.capacity)
    (hdecode : Answer.decode? (Answer.encode (Answer.normalize a)) = some (Answer.normalize a))
    (h : Holds env last (cache.store now ttl (entry kind input a 0)) kind input v) :
    v = Answer.normalize a := by
  obtain ⟨e, b, hfind, -, hb, rfl⟩ := h
  rw [show key kind input = (entry kind input a 0).key from rfl,
    Cache.find?_store_self hpos] at hfind
  obtain rfl := Option.some.inj hfind
  obtain rfl := Option.some.inj (hdecode.symm.trans hb)
  exact LawfulAnswer.normalize_normalize a

/-- What is held for other requests stays when an answer is added, if there is room. -/
theorem find?_store_entry (hroom : cache.size < cache.capacity) {k : Kind} {i : Json}
    (hkey : key k i ≠ key kind input) :
    (cache.store now ttl (entry kind input a 0)).find? (key k i) = cache.find? (key k i) :=
  Cache.find?_store hroom hkey

end store

/-- Every answer that counts now lasts. -/
def Enduring (env : Environment) (last : Nat) (st : Store) : Prop :=
  ∀ e ∈ st.cache.entries, e.isExpired (env.clock st.ticks) = false → Lasts env last e

/-- What counted before and what is added lasts. -/
theorem Enduring.of_mem (hclock : ∀ m n, m ≤ n → env.clock m ≤ env.clock n)
    (h : Enduring env last st) {st' : Store} (hticks : st.ticks ≤ st'.ticks)
    (hmem : ∀ e ∈ st'.cache.entries, e ∈ st.cache.entries ∨ Lasts env last e) :
    Enduring env last st' := by
  intro e he hlive
  rcases hmem e he with hold | hlasts
  · refine h e hold ?_
    have hle := hclock _ _ hticks
    simp only [Entry.isExpired, decide_eq_false_iff_not] at hlive ⊢
    omega
  · exact hlasts

/-- What is known is held after it has been looked up. -/
theorem Enduring.holds_of_known (h : Enduring env last st) {a : kind.Result}
    (hknown : known? kind.Result env st input = some a) :
    Holds env last (lookedUp kind.Result env st input) kind input (Answer.normalize a) := by
  obtain ⟨e, he, hdecode⟩ := Option.bind_eq_some_iff.mp hknown
  rw [kind_result] at he
  obtain ⟨hfind, hlive⟩ := Cache.of_lookup_eq_some he
  refine ⟨e, a, ?_, h e (Cache.of_find?_eq_some hfind).1 hlive, hdecode, rfl⟩
  rw [lookedUp, kind_result]
  exact Cache.find?_lookup_of_some he

end held

/-! ### Conditions -/

/-- What has become of an engine, from what it started from, is such that answers stay until a given
time. -/
structure Lasting (env : Environment) (last : Nat) (st : Store) (s : Course) : Prop where
  /-- The clock does not go back. -/
  clock : ∀ m n, m ≤ n → env.clock m ≤ env.clock n
  /-- No request has been given up. -/
  kept : ∀ r, .dropped r ∉ s.events
  /-- All answers have come in time, and are documents that can be read. -/
  answered : ∀ kind input reply, .answered ⟨kind, input⟩ reply ∈ s.events →
    ∃ j, reply = .body j ∧ j.Proper ∧ (readable? kind reply).isSome
  /-- The answers that counted at the start last. -/
  old : Enduring env last st
  /-- The answers that have been stored last. -/
  stored : ∀ e, .stored e ∈ s.events → Lasts env last e
  /-- There is room for all answers. -/
  room : st.cache.size + s.store.requests.length ≤ st.cache.capacity + st.requests.length
  /-- No two requests have the same cache key. -/
  apart : Apart (s.events.map Event.request)

/-- The answers to the same request agree. -/
def Agreeing (events : List Event) : Prop :=
  ∀ kind input reply reply', .answered ⟨kind, input⟩ reply ∈ events →
    .answered ⟨kind, input⟩ reply' ∈ events → readable? kind reply = readable? kind reply'

section retention

variable {env : Environment} {last : Nat} {st : Store} {σ σ' : Situation}

/-- The conditions have been met before a run if they are met after it. -/
theorem Lasting.of_run (hrun : Run env σ σ') (h : Lasting env last st σ'.course) :
    Lasting env last st σ.course := by
  obtain ⟨hevents, hrequests, -⟩ := hrun.grows
  have hsub := hevents.subset
  refine ⟨h.clock, fun r hr => h.kept r (hsub hr),
    fun kind input reply hr => h.answered kind input reply (hsub hr), h.old,
    fun e he => h.stored e (hsub he), ?_, h.apart.mono (List.map_subset _ hsub)⟩
  have hroom := h.room
  have hlength := hrequests.length_le
  omega

/-- Answers that agree have agreed before. -/
theorem Agreeing.of_run (hrun : Run env σ σ') (h : Agreeing σ'.course.events) :
    Agreeing σ.course.events := by
  have hsub := hrun.grows.1.subset
  exact fun kind input reply reply' hr hr' => h kind input reply reply' (hsub hr) (hsub hr')

/-! ### Retention -/

/-- Everything that has been served is held. -/
structure Retains (env : Environment) (last : Nat) (st : Store) (σ : Situation) : Prop where
  /-- What counts lasts. -/
  enduring : Enduring env last σ.course.store
  /-- The room stays the same. -/
  capacity : σ.course.store.cache.capacity = st.cache.capacity
  /-- There is an answer at most for each request that is not waited for. -/
  room : σ.course.store.cache.size + σ.waiting.card + st.requests.length ≤
    st.cache.size + σ.course.store.requests.length
  /-- What is waited for has been asked for. -/
  asked : ∀ r ∈ σ.waiting, .asked r ∈ σ.course.events
  /-- What has been served is held. -/
  served : ∀ {kind input result}, .served kind input result ∈ σ.course.events →
    Holds env last σ.course.store.cache kind input result.value
  /-- What is held although it is waited for has been answered since it has been asked for. -/
  overtaken : ∀ {kind input v}, ⟨kind, input⟩ ∈ σ.waiting →
    Holds env last σ.course.store.cache kind input v →
      ∃ reply a, .answered ⟨kind, input⟩ reply ∈ σ.course.events ∧
        readable? kind reply = some a ∧ v = Answer.normalize a

/-- Looking up a request leaves what is held. -/
theorem Retains.lookup {w : Multiset Request} {s : Course} (h : Retains env last st ⟨w, s⟩)
    (hclock : ∀ m n, m ≤ n → env.clock m ≤ env.clock n) (hlast : s.store.ticks < last)
    (kind : Kind) (input : Json) :
    Retains env last st ⟨w, ⟨lookedUp kind.Result env s.store input, s.store.requests,
      s.store.ticks + 1⟩, s.events⟩ where
  enduring := h.enduring.of_mem hclock (Nat.le_succ _) fun _ he => .inl (Cache.mem_of_lookup he)
  capacity := (Cache.capacity_lookup ..).trans h.capacity
  room := (Nat.add_le_add_right (Nat.add_le_add_right (Cache.size_lookup ..) _) _).trans h.room
  asked := h.asked
  served hmem := (h.served hmem).lookup hlast _
  overtaken hr hv := h.overtaken hr hv.of_lookup

/-- Putting down what happens leaves what is held, if what is served is held. -/
theorem Retains.note {w : Multiset Request} {s : Course} (h : Retains env last st ⟨w, s⟩)
    {event : Event} (hserved : ∀ {kind input result}, event = .served kind input result →
      Holds env last s.store.cache kind input result.value) :
    Retains env last st ⟨w, ⟨s.store, event :: s.events⟩⟩ where
  enduring := h.enduring
  capacity := h.capacity
  room := h.room
  asked r hr := List.mem_cons_of_mem _ (h.asked r hr)
  served hmem := by
    rcases List.mem_cons.mp hmem with heq | hmem
    · exact hserved heq.symm
    · exact h.served hmem
  overtaken hr hv := by
    obtain ⟨reply, b, hmem, hb⟩ := h.overtaken hr hv
    exact ⟨reply, b, List.mem_cons_of_mem _ hmem, hb⟩

/-- Making a request for which nothing is held leaves what is held. -/
theorem Retains.ask {w : Multiset Request} {s : Course} (h : Retains env last st ⟨w, s⟩)
    {kind : Kind} {input : Json} (hasked : .asked ⟨kind, input⟩ ∈ s.events)
    (hnone : ∀ v, ¬ Holds env last s.store.cache kind input v) :
    Retains env last st ⟨⟨kind, input⟩ ::ₘ w,
      ⟨⟨s.store.cache, ⟨kind, input⟩ :: s.store.requests, s.store.ticks⟩, s.events⟩⟩ where
  enduring := h.enduring
  capacity := h.capacity
  room := by
    have hroom := h.room
    simp only [Multiset.card_cons, List.length_cons] at hroom ⊢
    omega
  asked r hr := by
    rcases Multiset.mem_cons.mp hr with rfl | hr
    · exact hasked
    · exact h.asked r hr
  served := h.served
  overtaken hr hv := by
    rcases Multiset.mem_cons.mp hr with heq | hr
    · cases heq
      exact (hnone _ hv).elim
    · exact h.overtaken hr hv

/-! ### Answers that are stored -/

section storing

variable {w : Multiset Request} {s : Course} {kind : Kind} {input : Json} {reply : Reply}
  {a : kind.Result}

/-- There is room for an answer that is waited for. -/
theorem Retains.size_lt {r : Request} (h : Retains env last st ⟨r ::ₘ w, s⟩)
    (hroom : st.cache.size + s.store.requests.length ≤ st.cache.capacity + st.requests.length) :
    s.store.cache.size < s.store.cache.capacity := by
  have hbefore := h.room
  rw [h.capacity]
  simp only [Multiset.card_cons] at hbefore
  omega

/-- What has happened before an answer is stored has happened. -/
theorem mem_storing {event : Event} (h : event ∈ s.events) :
    event ∈ (s.storing env kind input reply a).events := by
  simp [Course.storing, h]

/-- The answer that is stored has been taken. -/
theorem answered_mem_storing :
    .answered ⟨kind, input⟩ reply ∈ (s.storing env kind input reply a).events := by
  simp [Course.storing]

variable (h : Lasting env last st (s.storing env kind input reply a))

include h

/-- The answer that is stored lasts. -/
theorem Lasting.lasts_storing :
    Lasts env last (entry kind input a (expiry (env.clock s.store.ticks) env.ttl)) :=
  h.stored _ (by simp [Course.storing])

/-- A request with the key of the answer that is stored is the one that is answered. -/
theorem Lasting.eq_of_key_eq {event : Event} (hevent : event ∈ s.events) {k : Kind} {i : Json}
    (hrequest : event.request = ⟨k, i⟩) (hkey : key k i = key kind input) :
    (⟨k, i⟩ : Request) = ⟨kind, input⟩ := by
  refine h.apart _ ?_ ⟨kind, input⟩ (List.mem_map_of_mem answered_mem_storing) hkey
  rw [← hrequest]
  exact List.mem_map_of_mem (mem_storing hevent)

variable (hreadable : readable? kind reply = some a)

include hreadable

/-- The answer that is stored can be read again. -/
theorem Lasting.decode_encode_storing :
    Answer.decode? (Answer.encode (Answer.normalize a)) = some (Answer.normalize a) := by
  obtain ⟨j, rfl, hproper, -⟩ := h.answered kind input _ answered_mem_storing
  exact LawfulAnswer.decode_encode_normalize hproper hreadable

variable (hσ : Retains env last st ⟨⟨kind, input⟩ ::ₘ w, s⟩)

include hσ

/-- What has been served is held after an answer has been stored. An answer to the same request that
is replaced agrees with the one that replaces it. -/
theorem Retains.served_storing (hagree : Agreeing (s.storing env kind input reply a).events)
    {k : Kind} {i : Json} {result : Enriched k.Result}
    (hmem : .served k i result ∈ (s.storing env kind input reply a).events) :
    Holds env last (s.storing env kind input reply a).store.cache k i result.value := by
  have hsize := hσ.size_lt h.room
  have hstored : Holds env last (s.storing env kind input reply a).store.cache kind input
      (Answer.normalize a) :=
    holds_store (Nat.zero_lt_of_lt hsize) h.lasts_storing (h.decode_encode_storing hreadable)
  rcases List.mem_cons.mp hmem with heq | hmem
  · cases heq
    exact hstored
  · have hold : .served k i result ∈ s.events := by simpa using hmem
    by_cases hkey : key k i = key kind input
    · -- what was held has been answered as well, and the two answers agree
      obtain ⟨rfl, rfl⟩ := Request.mk.inj (h.eq_of_key_eq hold rfl hkey)
      obtain ⟨reply', b, hmem', hb, hvalue⟩ :=
        hσ.overtaken (Multiset.mem_cons_self _ _) (hσ.served hold)
      have hboth := hagree k i _ _ answered_mem_storing (mem_storing hmem')
      obtain rfl := Option.some.inj (hreadable.symm.trans (hboth.trans hb))
      rw [hvalue]
      exact hstored
    · exact (hσ.served hold).of_find?_eq (find?_store_entry hsize hkey)

/-- What is held after an answer has been stored, although it is waited for, has been answered. -/
theorem Retains.overtaken_storing {k : Kind} {i : Json} {v : k.Result} (hr : ⟨k, i⟩ ∈ w)
    (hv : Holds env last (s.storing env kind input reply a).store.cache k i v) :
    ∃ reply' b, .answered ⟨k, i⟩ reply' ∈ (s.storing env kind input reply a).events ∧
      readable? k reply' = some b ∧ v = Answer.normalize b := by
  have hsize := hσ.size_lt h.room
  have hr' : ⟨k, i⟩ ∈ (⟨kind, input⟩ : Request) ::ₘ w := Multiset.mem_cons_of_mem hr
  by_cases hkey : key k i = key kind input
  · obtain ⟨rfl, rfl⟩ := Request.mk.inj (h.eq_of_key_eq (hσ.asked _ hr') rfl hkey)
    exact ⟨_, a, answered_mem_storing, hreadable,
      hv.eq_of_store (Nat.zero_lt_of_lt hsize) (h.decode_encode_storing hreadable)⟩
  · obtain ⟨reply', b, hmem, hb⟩ :=
      hσ.overtaken hr' (hv.of_find?_eq (find?_store_entry hsize hkey).symm)
    exact ⟨reply', b, mem_storing hmem, hb⟩

/-- Taking an answer and storing it retains what has been served. -/
theorem Retains.storing (hagree : Agreeing (s.storing env kind input reply a).events) :
    Retains env last st ⟨w, s.storing env kind input reply a⟩ where
  enduring := hσ.enduring.of_mem h.clock (Nat.le_succ _) fun _ he =>
    (Cache.mem_of_store he).elim (fun heq => .inr (heq ▸ h.lasts_storing)) .inl
  capacity := hσ.capacity
  room := by
    have hroom := hσ.room
    have hgrow := Cache.size_store s.store.cache (env.clock s.store.ticks) env.ttl
      (entry kind input a 0)
    simp only [Course.storing, Multiset.card_cons] at hroom ⊢
    omega
  asked r hr := mem_storing (hσ.asked r (Multiset.mem_cons_of_mem hr))
  served hmem := Retains.served_storing h hreadable hσ hagree hmem
  overtaken hr hv := Retains.overtaken_storing h hreadable hσ hr hv

end storing

/-- **A step retains what has been served**, if the conditions are met. -/
theorem retains_step (hstep : Step env σ σ') (h : Lasting env last st σ'.course)
    (hagree : Agreeing σ'.course.events) (hlast : σ'.course.store.ticks ≤ last)
    (hσ : Retains env last st σ) : Retains env last st σ' := by
  cases hstep with
  | @look w s =>
    exact ⟨hσ.enduring.of_mem h.clock (Nat.le_succ _) fun _ he => .inl he, hσ.capacity, hσ.room,
      hσ.asked, hσ.served, hσ.overtaken⟩
  | @recalled w s kind input a known =>
    refine (hσ.lookup h.clock hlast kind input).note fun heq => ?_
    cases heq
    exact hσ.enduring.holds_of_known known
  | @asked w s kind input unknown =>
    have hlooked := hσ.lookup h.clock hlast kind input
    refine (hlooked.note fun heq => by cases heq).ask List.mem_cons_self fun v hv => ?_
    -- what is held is known, and would not have been asked for
    obtain ⟨b, hknown, -⟩ := hv.of_lookup.known hlast
    rw [unknown] at hknown
    cases hknown
  | @failed w s kind input earlier unreadable =>
    obtain ⟨j, -, -, hreadable⟩ :=
      h.answered kind input _ (List.mem_cons_of_mem _ List.mem_cons_self)
    have hnone : readable? kind (env.provider earlier ⟨kind, input⟩) = none := unreadable
    rw [hnone] at hreadable
    cases hreadable
  | @stored w s kind input earlier a readable => exact .storing h readable hσ hagree
  | dropped r => exact (h.kept r List.mem_cons_self).elim

/-- **A run retains what has been served.** -/
theorem retains_run (hrun : Run env σ σ') (h : Lasting env last st σ'.course)
    (hagree : Agreeing σ'.course.events) (hlast : σ'.course.store.ticks ≤ last)
    (hσ : Retains env last st σ) : Retains env last st σ' := by
  induction hrun with
  | refl => exact hσ
  | tail hrun hstep ih =>
    have hbefore := Relation.ReflTransGen.single hstep
    exact retains_step hstep h hagree hlast
      (ih (h.of_run hbefore) (hagree.of_run hbefore) (hstep.grows.2.2.trans hlast))

/-- **What has been served is held in the end**, if the conditions are met and the answers to the
same request agree. -/
theorem Lasting.holds {s : Course} (h : Lasting env last st s)
    (hrun : Run env ⟨0, st, []⟩ ⟨0, s⟩) (hagree : Agreeing s.events) (hlast : s.store.ticks ≤ last)
    {kind : Kind} {input : Json} {result : Enriched kind.Result}
    (hserved : .served kind input result ∈ s.events) :
    Holds env last s.store.cache kind input result.value := by
  have hstart : Retains env last st ⟨0, st, []⟩ := by
    refine ⟨h.old, rfl, ?_, fun r hr => ?_, fun hmem => ?_, fun hr _ => ?_⟩
    · rw [Multiset.card_zero, Nat.add_zero]
    · exact (Multiset.notMem_zero r hr).elim
    · cases hmem
    · exact (Multiset.notMem_zero _ hr).elim
  exact (retains_run hrun h hagree hlast hstart).served hserved

end retention

end Enrichment

end RecordFormula
