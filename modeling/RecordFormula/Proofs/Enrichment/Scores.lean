import RecordFormula.Proofs.Enrichment.Provenance
import RecordFormula.Proofs.Number.Value
import RecordFormula.Proofs.Registry

/-!
# Scores stay in range

A score is a whole number from 0 to 100. It is brought into range before it is stored and once more
when it is read, so that neither a provider nor an entry that somebody else has put into the cache
can lead out of the range.

* `IsScore` — the numbers that are scores. **Bringing a number into range gives one**
  (`isScore_clampScore`).
* `StoresScore` — the call asks the provider, which answers, and an entry is left behind.
* **All scores are in range, and an entry is read as the score of the call that has stored it**
  (`leadScore_inRange`).
-/

namespace RecordFormula

namespace Enrichment

open Number (IsWhole value_of_zero)

/-! ### Scores -/

section scores

variable {x : Float} {i : Int}

/-- Is the number a score? -/
structure IsScore (x : Float) : Prop where
  /-- It is one of the whole numbers from 0 to 100. -/
  whole : ∃ n : Nat, n ≤ 100 ∧ IsWhole x n
  /-- It is not below 0. -/
  low : 0.0 ≤ x
  /-- It is not above 100. -/
  high : x ≤ 100.0

/-- The least score is a whole number. -/
theorem isWhole_zero : IsWhole 0.0 0 := Number.isWhole_of_zero (s := .positive) rfl

/-- The greatest score is a whole number. -/
theorem isWhole_hundred : IsWhole 100.0 100 := by
  have h : (100.0 : Float) = Float.ofNat 100 := by decide +kernel
  rw [h]
  exact Number.isWhole_ofNat (by decide)

/-- A whole number from 0 to 100 is a score. -/
theorem isScore_of_isWhole (h : IsWhole x i) (hlow : 0 ≤ i) (hhigh : i ≤ 100) : IsScore x := by
  obtain ⟨n, rfl⟩ := Int.eq_ofNat_of_zero_le hlow
  refine ⟨⟨n, by omega, h⟩, ?_, ?_⟩
  · rw [Number.le_iff_value_le rfl h.isFinite, isWhole_zero.value_eq, h.value_eq]
    exact_mod_cast hlow
  · rw [Number.le_iff_value_le h.isFinite isWhole_hundred.isFinite, isWhole_hundred.value_eq,
      h.value_eq]
    exact_mod_cast hhigh

/-- **Bringing a number into range** gives a score. -/
theorem isScore_clampScore (x : Float) : IsScore (clampScore x) := by
  rcases clampScore_cases x with h | h | ⟨h, hfin, hlow, hhigh⟩ <;> rw [h]
  · exact isScore_of_isWhole isWhole_zero le_rfl (by decide)
  · exact isScore_of_isWhole isWhole_hundred (by decide) le_rfl
  · have hx : Number.isFinite x := by
      by_contra hx
      have hround : Number.round x = x := by simp [Number.round, hx]
      rw [hround] at hfin
      exact hx hfin
    obtain ⟨i, hi⟩ := Number.exists_isWhole_round hx
    rw [Number.lt_iff_value_lt hfin rfl, isWhole_zero.value_eq, hi.value_eq] at hlow
    rw [Number.lt_iff_value_lt isWhole_hundred.isFinite hfin, isWhole_hundred.value_eq,
      hi.value_eq] at hhigh
    exact isScore_of_isWhole hi (by exact_mod_cast not_lt.mp hlow)
      (by exact_mod_cast not_lt.mp hhigh)

/-- An answer that has been brought into range is a score. -/
theorem isScore_normalize (a : LeadScore) : IsScore (Answer.normalize a).score :=
  isScore_clampScore a.score

/-- So is the answer when there is none. -/
theorem isScore_fallback : IsScore (Answer.fallback : LeadScore).score :=
  isScore_of_isWhole isWhole_zero le_rfl (by decide)

end scores

/-! ### Calls -/

section calls

variable {env : Environment} {st : Store} {record : Json} {e : Entry}

/-- The request that is made about a record. -/
def scoreInput (record : Json) : Json := .object [("record", record)]

/-- Is there anything in the record that can be scored? -/
def HasFields (record : Json) : Prop := record ≠ .null ∧ record ≠ .object []

/-- A record with fields is asked about. -/
theorem leadScore_of_hasFields (h : HasFields record) :
    leadScore record = enrich LeadScore (scoreInput record) := by
  unfold leadScore scoreInput?
  split
  · exact absurd rfl h.1
  · exact absurd rfl h.2
  · rfl

/-- A record without fields is not. -/
theorem leadScore_of_not_hasFields (h : ¬HasFields record) :
    leadScore record = pure Enriched.fallback := by
  unfold leadScore scoreInput?
  split
  · rfl
  · rfl
  · rename_i hnull hempty
    exact absurd ⟨hnull, hempty⟩ h

/-- **What a request gives is in range**: to bring it there once more does not change it. -/
theorem normalize_value_enrich {α : Type} [Answer α] [LawfulAnswer α] (env : Environment)
    (st : Store) (input : Json) :
    Answer.normalize (enrich α input env st).1.value = (enrich α input env st).1.value := by
  have hspec := enrich_spec (α := α) env st input
  generalize enrich α input env st = p at hspec ⊢
  cases hspec with
  | hit => exact LawfulAnswer.normalize_normalize _
  | fallback => exact LawfulAnswer.normalize_fallback
  | stored => exact LawfulAnswer.normalize_normalize _

/-- **A request gives a score**, whatever is in the cache and whatever the provider does. -/
theorem isScore_enrich (env : Environment) (st : Store) (input : Json) :
    IsScore (enrich LeadScore input env st).1.value.score := by
  rw [← normalize_value_enrich]
  exact isScore_normalize _

/-- **A call gives a score.** -/
theorem isScore_leadScore (env : Environment) (st : Store) (record : Json) :
    IsScore (leadScore record env st).1.value.score := by
  by_cases h : HasFields record
  · rw [leadScore_of_hasFields h]
    exact isScore_enrich env st _
  · rw [leadScore_of_not_hasFields h]
    exact isScore_fallback

/-- Does the call store the entry? -/
structure StoresScore (env : Environment) (st : Store) (record : Json) (e : Entry) : Prop where
  /-- It makes a request to the provider. -/
  asked : (leadScore record env st).2.requests = ⟨.leadScore, scoreInput record⟩ :: st.requests
  /-- The provider answers in time with a document that can be read. -/
  answered : answer? env.provider .leadScore (scoreInput record) st.requests ≠ none
  /-- The entry is what the cache has under the key of the request thereafter. -/
  found : (leadScore record env st).2.cache.find? (key .leadScore (scoreInput record)) = some e

/-- **A call that finds nothing stores the answer** that the provider has, if there is any room. The
entry expires when the time to live is over. -/
theorem exists_storesScore (hfields : HasFields record)
    (hunknown : known? LeadScore env st (scoreInput record) = none)
    (hanswered : answer? env.provider .leadScore (scoreInput record) st.requests ≠ none)
    (hroom : 0 < st.cache.capacity) :
    ∃ e, StoresScore env st record e ∧
      e.expiresAt = expiry (env.clock (st.ticks + 1)) env.ttl := by
  obtain ⟨a, ha⟩ := Option.ne_none_iff_exists'.mp hanswered
  have hprovided : provided? LeadScore env ⟨lookedUp LeadScore env st (scoreInput record),
      st.requests, st.ticks + 1⟩ (scoreInput record) = some a := ha
  let e : Entry := ⟨key .leadScore (scoreInput record), .leadScore, scoreInput record,
    Answer.encode (Answer.normalize a), 0⟩
  have hcall : (leadScore record env st).2 =
      ⟨(lookedUp LeadScore env st (scoreInput record)).store (env.clock (st.ticks + 1)) env.ttl e,
        ⟨.leadScore, scoreInput record⟩ :: st.requests, st.ticks + 2⟩ := by
    rw [leadScore_of_hasFields hfields, enrich_apply, hunknown]
    simp only [fetch_apply, hprovided]
    rfl
  have hroom' : 0 < (lookedUp LeadScore env st (scoreInput record)).capacity := by
    rw [lookedUp, Cache.capacity_lookup]
    exact hroom
  refine ⟨{ e with expiresAt := expiry (env.clock (st.ticks + 1)) env.ttl },
    ⟨?_, hanswered, ?_⟩, rfl⟩
  · rw [hcall]
  · rw [hcall]
    exact Cache.find?_store_self hroom'

/-- Only a record with fields is asked about. -/
theorem StoresScore.hasFields (h : StoresScore env st record e) : HasFields record := by
  by_contra hnone
  have hasked := h.asked
  rw [leadScore_of_not_hasFields hnone] at hasked
  exact absurd hasked.symm (List.cons_ne_self _ _)

/-- **The entry holds the score** that the call returns. -/
theorem StoresScore.decode?_result (h : StoresScore env st record e) :
    Answer.decode? e.result = some (leadScore record env st).1.value := by
  obtain ⟨hasked, hanswered, hfound⟩ := id h
  rw [leadScore_of_hasFields h.hasFields] at hasked hfound ⊢
  have hspec := enrich_spec (α := LeadScore) env st (scoreInput record)
  generalize enrich LeadScore (scoreInput record) env st = p at hasked hfound hspec ⊢
  cases hspec with
  | hit => exact absurd hasked.symm (List.cons_ne_self _ _)
  | fallback unknown unanswered => exact absurd unanswered hanswered
  | @stored a unknown provided =>
    obtain ⟨hmem, hkey⟩ := Cache.of_find?_eq_some hfound
    rcases Cache.of_mem_store hmem with rfl | ⟨-, hother⟩
    · rw [LeadScore.decode?_encode]
      simp [Answer.normalize, encodeNumber_of_isFinite (isFinite_clampScore a.score), decodeNumber?]
    · exact absurd hkey hother

/-- **A look-up that finds the entry** ends the call with the score of the call that has stored it,
and nobody is asked. -/
theorem StoresScore.later (h : StoresScore env st record e) {env' : Environment} {st' : Store}
    {record' : Json} (hfields : HasFields record')
    (hlookup : (st'.cache.lookup (env'.clock st'.ticks)
      (key .leadScore (scoreInput record'))).1 = some e) :
    (leadScore record' env' st').1 = ⟨(leadScore record env st).1.value, true⟩ ∧
      (leadScore record' env' st').2.requests = st'.requests := by
  have hknown : known? LeadScore env' st' (scoreInput record') =
      some (leadScore record env st).1.value := by
    rw [← h.decode?_result, known?, show Answer.kind LeadScore = .leadScore from rfl, hlookup]
    rfl
  have hnormal : Answer.normalize (leadScore record env st).1.value =
      (leadScore record env st).1.value := by
    rw [leadScore_of_hasFields h.hasFields]
    exact normalize_value_enrich env st _
  rw [leadScore_of_hasFields hfields, enrich_apply, hknown]
  exact ⟨by simp only [hnormal], rfl⟩

end calls

/-! ### On every path -/

/-- **Scores stay in range**, whatever is in the cache, whoever has put it there, and whatever the
provider does:

* a call to the service gives a score, from the cache, from the provider or as a fallback;
* `AI_LEAD_SCORE` gives just this score as a number for all arguments and records, and never fails;
* where a call has stored an entry, every later call that finds it gives the score of the first one
  as one from the cache, and asks nobody. -/
theorem leadScore_inRange :
    (∀ env st record, IsScore (leadScore record env st).1.value.score) ∧
    (∃ f, Registry.standard.find? "AI_LEAD_SCORE" = some f ∧ ∀ args record env st,
      let call := leadScore (Leads.scored args record) env st
      f.apply args record env st = (.ok (.number call.1.value.score), call.2) ∧
        IsScore call.1.value.score) ∧
    ∀ env st record e, StoresScore env st record e →
      ∀ env' st' record', HasFields record' →
        (st'.cache.lookup (env'.clock st'.ticks) (key .leadScore (scoreInput record'))).1 =
          some e →
        (leadScore record' env' st').1 = ⟨(leadScore record env st).1.value, true⟩ ∧
          (leadScore record' env' st').2.requests = st'.requests := by
  refine ⟨isScore_leadScore, ⟨.asking Leads.score, ?_, ?_⟩, ?_⟩
  · exact Registry.find?_standard_of_mem (by simp [Function.standard, Function.leads])
  · intro args record env st
    exact ⟨rfl, isScore_leadScore env st _⟩
  · intro env st record e h env' st' record' hfields hlookup
    exact h.later hfields hlookup

/-- A provider that answers with more than a hundred: the call that stores the answer gives a
hundred, and so does the next one, from the cache. -/
theorem leadScore_inRange_high :
    let env : Environment :=
      ⟨fun _ _ => .body (.object [("score", .real 250.7)]), fun _ => 0, 1000⟩
    let record : Json := .object [("name", .text "Acme")]
    let first := leadScore record env (Store.initial 5)
    first.1.cached = false ∧ first.1.value.score = 100.0 ∧ IsScore first.1.value.score ∧
      (leadScore record env first.2).1 = ⟨first.1.value, true⟩ := by
  intro env record first
  have hfields : HasFields record := by simp [HasFields, record]
  have hanswer : answer? env.provider .leadScore (scoreInput record) [] =
      some (⟨250.7⟩ : LeadScore) := rfl
  obtain ⟨e, he, hexpires⟩ : ∃ e, StoresScore env (Store.initial 5) record e ∧ e.expiresAt = 1000 :=
    exists_storesScore hfields rfl (fun h => Option.some_ne_none _ (hanswer.symm.trans h))
      (by decide)
  have hlookup : (first.2.cache.lookup (env.clock first.2.ticks)
      (key .leadScore (scoreInput record))).1 = some e :=
    Cache.lookup_eq_some he.found (by simp only [Entry.isExpired, hexpires]; decide)
  obtain ⟨hscores, -, hlater⟩ := leadScore_inRange
  refine ⟨rfl, ?_, hscores env _ record, (hlater env _ record e he env _ record hfields hlookup).1⟩
  show clampScore 250.7 = 100.0
  decide +kernel

end Enrichment

end RecordFormula
