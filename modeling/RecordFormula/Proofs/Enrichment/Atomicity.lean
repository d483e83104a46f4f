import RecordFormula.Proofs.Enrichment.Recency
import RecordFormula.Proofs.Enrichment.Scripts

/-!
# A request leaves all or nothing

A request to the service asks the provider once at most. If nobody has an answer the cache is left
as it was, as far as its answers still count; if the provider has one, this answer is added, and it
takes the place of one other answer at most.

* `Cache.live?` — what a cache has under a key that still counts. **A look-up does not change it**
  (`Cache.live?_lookup`).
* `Cache.Adds` — what is different in a cache to which an answer has been added. **Adding an answer
  does no more** (`Cache.adds_store`).
* **A request is atomic** (`enrich_atomic`) in every state that a session can be in
  (`Script.bounded_run`).
-/

namespace RecordFormula

namespace Enrichment

/-! ### The cache -/

namespace Cache

variable {c : Cache} {now t : Int} {ttl : Nat} {key k : String} {e : Entry}

/-- The answer under a key, if it still counts at the moment. -/
def live? (c : Cache) (now : Int) (key : String) : Option Entry :=
  (c.find? key).filter fun e => !e.isExpired now

/-- An answer that no longer counts does not count later. -/
theorem isExpired_of_le (hle : now ≤ t) (h : e.isExpired now = true) : e.isExpired t = true := by
  simp only [Entry.isExpired, decide_eq_true_eq] at h ⊢
  omega

/-- **A look-up leaves every answer that still counts**, then and later. -/
theorem live?_lookup (hle : now ≤ t) : (c.lookup now key).2.live? t k = c.live? t k := by
  unfold live?
  by_cases hk : k = key
  · subst hk
    rw [find?_lookup_self, fst_lookup]
    cases c.find? k with
    | none => rfl
    | some e =>
      cases hexp : e.isExpired now with
      | false => simp [Option.filter, hexp]
      | true => simp [Option.filter, hexp, isExpired_of_le hle hexp]
  · rw [find?_lookup hk]

/-- What is different in a cache to which an answer has been added. -/
structure Adds (c c' : Cache) (e : Entry) : Prop where
  /-- The answer is under its key. -/
  found : c'.find? e.key = some e
  /-- The answers under other keys are still there; unless there was nothing under the key and no
  room for more, in which case the least recently used one, and no other, is dropped. -/
  others : (∀ k ≠ e.key, c'.find? k = c.find? k) ∨
    (c.size = c.capacity ∧ c.find? e.key = none ∧
      ∃ dropped, c.entries.getLast? = some dropped ∧ c'.find? dropped.key = none ∧
        ∀ k ≠ e.key, k ≠ dropped.key → c'.find? k = c.find? k)

/-- If there is no room beside the answers under other keys, there is none at all, and nothing under
the key. -/
theorem full_of_others (hbounded : c.Bounded) (h : c.capacity ≤ (c.others key).length) :
    c.size = c.capacity ∧ c.find? key = none := by
  have hothers := length_others_le c key
  have hsize := hbounded.size_le
  refine ⟨by omega, ?_⟩
  cases hfind : c.find? key with
  | none => rfl
  | some e =>
    have hlt := length_others_lt hfind
    omega

/-- If nothing is under the key, all answers are under other keys. -/
theorem others_of_find?_eq_none (h : c.find? key = none) : c.others key = c.entries := by
  rw [others, List.filter_eq_self]
  intro e he
  simpa using List.find?_eq_none.mp h e he

/-- If there is no room and nothing under the key, an answer that is added moves the others back by
one place, and the last of them is dropped. -/
theorem entries_store_of_full (now : Int) (ttl : Nat) (hfull : c.size = c.capacity)
    (hroom : 0 < c.capacity) (hnone : c.find? e.key = none) :
    ∃ kept dropped, c.entries = kept ++ [dropped] ∧
      (c.store now ttl e).entries = { e with expiresAt := expiry now ttl } :: kept := by
  have hne : c.entries ≠ [] := by
    rw [← List.length_pos_iff, ← size, hfull]
    exact hroom
  obtain ⟨kept, dropped, hsplit⟩ : ∃ kept dropped, c.entries = kept ++ [dropped] :=
    ⟨_, _, (List.dropLast_append_getLast hne).symm⟩
  have hlen : c.capacity = kept.length + 1 := by
    rw [← hfull, size, hsplit, List.length_append, List.length_singleton]
  refine ⟨kept, dropped, hsplit, ?_⟩
  rw [store, others_of_find?_eq_none hnone, hsplit, hlen, List.take_succ_cons, List.take_left]

/-- **Adding an answer does no more** than to drop the least recently used one, if it must. -/
theorem adds_store (hbounded : c.Bounded) (hroom : 0 < c.capacity) :
    c.Adds (c.store now ttl e) { e with expiresAt := expiry now ttl } := by
  refine ⟨find?_store_self hroom, ?_⟩
  by_cases hfits : (c.others e.key).length < c.capacity
  · exact .inl fun k hk => find?_store_of_room hfits hk
  · obtain ⟨hfull, hnone⟩ := full_of_others hbounded (Nat.le_of_not_lt hfits)
    refine .inr ⟨hfull, hnone, ?_⟩
    obtain ⟨kept, dropped, hsplit, hstore⟩ := entries_store_of_full now ttl hfull hroom hnone
    have hafter : ∀ k ≠ e.key, (c.store now ttl e).find? k = kept.find? (·.key == k) := by
      intro k hk
      rw [find?, hstore, List.find?_cons_of_neg]
      simpa using hk.symm
    have hbefore : ∀ k ≠ dropped.key, c.find? k = kept.find? (·.key == k) := by
      intro k hk
      rw [find?, hsplit, List.find?_append, List.find?_singleton, if_neg (by simpa using hk.symm),
        Option.or_none]
    -- the keys are different, so that nothing is left under the key of the dropped answer
    have hgone : kept.find? (·.key == dropped.key) = none := by
      have hnodup := hbounded.nodup_keys
      rw [keys, hsplit, List.map_append, List.nodup_append] at hnodup
      rw [List.find?_eq_none]
      intro e' he'
      simpa using hnodup.2.2 e'.key (List.mem_map_of_mem he') dropped.key (by simp)
    have hkey : dropped.key ≠ e.key := by
      intro heq
      have h := List.find?_eq_none.mp hnone dropped (by simp [hsplit])
      simp [heq] at h
    refine ⟨dropped, by simp [hsplit], ?_, fun k hk hne => ?_⟩
    · rw [hafter _ hkey, hgone]
    · rw [hafter k hk, hbefore k hne]

end Cache

/-! ### The request -/

section requests

variable {α : Type} [Answer α]

/-- The answer that the cache has is one that still counts. -/
theorem known?_eq (env : Environment) (st : Store) (input : Json) :
    known? α env st input =
      (st.cache.live? (env.clock st.ticks) (key (Answer.kind α) input)).bind fun e =>
        Answer.decode? e.result := by
  rw [known?, Cache.fst_lookup, Cache.live?]

/-- A request leaves no more answers in the cache than it has room for. -/
theorem bounded_enrich (env : Environment) {st : Store} (input : Json) (h : st.cache.Bounded) :
    (enrich α input env st).2.cache.Bounded := by
  have hspec := enrich_spec (α := α) env st input
  have hlooked : (lookedUp α env st input).Bounded := h.useAfter (.lookup ..)
  generalize enrich α input env st = result at hspec ⊢
  cases hspec with
  | hit => exact hlooked
  | fallback => exact hlooked
  | stored => exact hlooked.useAfter (.store ..)

/-- **So does every session**, which starts with an empty cache. -/
theorem Script.bounded_run {β : Type} (s : Script β) (env : Environment) (capacity : Nat) :
    (s.run env (Store.initial capacity)).2.cache.Bounded ∧
      0 < (s.run env (Store.initial capacity)).2.cache.capacity := by
  have hempty : (Store.initial capacity).cache.Bounded := Cache.bounded_after capacity []
  have hroom : 0 < (Store.initial capacity).cache.capacity := Nat.le_max_right ..
  generalize Store.initial capacity = st at hempty hroom ⊢
  induction s generalizing st with
  | done a => exact ⟨hempty, hroom⟩
  | look next ih => exact ih _ _ hempty hroom
  | ask kind input next ih =>
    rw [run_ask]
    refine ih _ _ (bounded_enrich env input hempty) ?_
    rwa [capacity_enrich]

/-- **A request is atomic.** Let there be no more answers in the cache than it has room for, under
different keys. If one that still counts is under the key of the request and can be read, it is the
answer, nobody is asked, and no answer that still counts changes. Otherwise the provider is asked
once. If it has no answer that can be read, the fallback is the answer and no answer of the cache
that still counts changes; if it has one, this answer is brought into range and added. -/
theorem enrich_atomic (env : Environment) (st : Store) (input : Json)
    (hbounded : st.cache.Bounded) (hroom : 0 < st.cache.capacity) :
    let key := key (Answer.kind α) input
    let request : Request := ⟨Answer.kind α, input⟩
    let now := env.clock st.ticks
    let (answer, after) := enrich α input env st
    match (st.cache.live? now key).bind fun e => (Answer.decode? e.result : Option α) with
    | some a =>
      answer = ⟨Answer.normalize a, true⟩ ∧ after.requests = st.requests ∧
        ∀ t ≥ now, ∀ k, after.cache.live? t k = st.cache.live? t k
    | none =>
      after.requests = request :: st.requests ∧
        match (env.provider st.requests request).body?.bind (Answer.decode? (α := α)) with
        | some a =>
          answer = ⟨Answer.normalize a, false⟩ ∧
            st.cache.Adds after.cache ⟨key, Answer.kind α, input,
              Answer.encode (Answer.normalize a), expiry (env.clock (st.ticks + 1)) env.ttl⟩
        | none =>
          answer = ⟨Answer.fallback, false⟩ ∧
            ∀ t ≥ now, ∀ k, after.cache.live? t k = st.cache.live? t k := by
  intro key request now
  have hspec := enrich_spec (α := α) env st input
  generalize enrich α input env st = result at hspec ⊢
  cases hspec with
  | @hit a hknown =>
    rw [known?_eq] at hknown
    simp only [now, key, hknown]
    exact ⟨trivial, trivial, fun t hle k => Cache.live?_lookup hle⟩
  | fallback hknown hprovided =>
    rw [known?_eq] at hknown
    rw [provided?] at hprovided
    simp only [now, key, request, hknown, hprovided]
    exact ⟨trivial, rfl, fun t hle k => Cache.live?_lookup hle⟩
  | @stored a hknown hprovided =>
    rw [known?_eq] at hknown
    rw [provided?] at hprovided
    simp only [now, key, request, hknown, hprovided]
    let entry : Entry :=
      ⟨key, Answer.kind α, input, Answer.encode (Answer.normalize a), 0⟩
    have hstore : (lookedUp α env st input).store (env.clock (st.ticks + 1)) env.ttl entry =
        st.cache.store (env.clock (st.ticks + 1)) env.ttl entry :=
      Cache.store_lookup (e := entry) st.cache (env.clock st.ticks)
    refine ⟨trivial, trivial, ?_⟩
    rw [hstore]
    exact Cache.adds_store hbounded hroom

/-- A cache with room for one answer, which is there. -/
def fullStore : Store := ⟨⟨1, [⟨"old", .leadScore, .null, .null, 5⟩]⟩, [], 0⟩

/-- A provider that always knows the number. -/
def phoneProvider : Environment :=
  ⟨fun _ _ => .body (.object [("phone", .text "1")]), fun _ => 0, 1000⟩

/-- A new number takes the place of the only answer. -/
theorem enrich_atomic_phone :
    let key := key .phoneCompletion (.object [])
    let (answer, after) := enrich PhoneSuggestion (.object []) phoneProvider fullStore
    fullStore.cache.Bounded ∧ 0 < fullStore.cache.capacity ∧
      after.requests = [⟨.phoneCompletion, .object []⟩] ∧ answer = ⟨⟨some "1"⟩, false⟩ ∧
      fullStore.cache.Adds after.cache
        ⟨key, .phoneCompletion, .object [], .object [("phone", .text "1")], 1000⟩ := by
  have hbounded : fullStore.cache.Bounded := ⟨by decide, by decide⟩
  have hroom : 0 < fullStore.cache.capacity := by decide
  have hkey : key .phoneCompletion (.object []) ≠ "old" := by decide +kernel
  have hlive : fullStore.cache.live? 0 (key .phoneCompletion (.object [])) = none := by
    simp [Cache.live?, Cache.find?, fullStore, Ne.symm hkey]
  have h := enrich_atomic (α := PhoneSuggestion) phoneProvider fullStore (.object []) hbounded hroom
  simp only [Answer.kind, phoneProvider] at h ⊢
  rw [hlive] at h
  obtain ⟨hrequests, hanswer, hadds⟩ := h
  exact ⟨hbounded, hroom, hrequests, hanswer, hadds⟩

end requests

end Enrichment

end RecordFormula
