import RecordFormula.Proofs.Enrichment.Scripts

/-!
# Without a provider

Without a provider nothing is ever added to the cache, and a request is answered from what the cache
knows already, or by the fallback. What a script gives then is settled before it starts, and what it
asks for on the way makes no difference to what comes after it.

* `Enrichment.Recalls` — what the cache answers under each key, whenever it is looked up; look-ups
  keep it (`Recalls.lookup`).
* **A request without a provider** (`enrich_offline`).
* **A script without a provider** (`Script.run_offline`) gives the same from every store that
  recalls the same, if it does not look at the clock or if the clock stands still.
-/

namespace RecordFormula

namespace Enrichment

variable {env : Environment} {known : String → Option Entry} {st : Store}

/-- Under each key the cache answers as given, whenever it is looked up. -/
def Recalls (env : Environment) (known : String → Option Entry) (st : Store) : Prop :=
  ∀ n key, (st.cache.lookup (env.clock n) key).1 = known key

/-- A look-up changes nothing about what the cache answers. -/
theorem Recalls.lookup (h : Recalls env known st) (m : Nat) (key : String)
    (requests : List Request) (ticks : Nat) :
    Recalls env known ⟨(st.cache.lookup (env.clock m) key).2, requests, ticks⟩ := by
  intro n k
  have hn := h n k
  rw [Cache.fst_lookup] at hn ⊢
  by_cases hk : k = key
  · -- what has been found still counts at the other reading of the clock
    subst hk
    rw [Cache.find?_lookup_self, h m k]
    cases hknown : known k with
    | none => rfl
    | some e =>
      rw [hknown, Option.filter_eq_some_iff] at hn
      rw [Option.filter_eq_some_iff]
      exact ⟨rfl, hn.2⟩
  · rw [Cache.find?_lookup hk]
    exact hn

/-- If the clock stands still, a cache answers the same whenever it is looked up. -/
theorem recalls_of_still (hclock : ∀ n, env.clock n = env.clock 0) (st : Store) :
    Recalls env (fun key => (st.cache.lookup (env.clock 0) key).1) st := by
  intro n key
  rw [hclock n]

/-- The answer to a request without a provider. -/
def recalled (known : String → Option Entry) (kind : Kind) (input : Json) : kind.Result :=
  ((known (key kind input)).bind fun e => Answer.decode? e.result).elim Answer.fallback
    Answer.normalize

/-- **A request without a provider** is answered by what the cache recalls, and nothing is added. -/
theorem enrich_offline (hoffline : env.provider = offline) (h : Recalls env known st) (kind : Kind)
    (input : Json) :
    (enrich kind.Result input env st).1.value = recalled known kind input ∧
      Recalls env known (enrich kind.Result input env st).2 := by
  have hknown : known? kind.Result env st input =
      (known (key kind input)).bind fun e => Answer.decode? e.result := by
    rw [known?, h, kind_result]
  have hspec := enrich_spec (α := kind.Result) env st input
  generalize enrich kind.Result input env st = p at hspec ⊢
  unfold recalled
  rw [← hknown]
  cases hspec with
  | hit found =>
    rw [found]
    exact ⟨rfl, h.lookup _ _ _ _⟩
  | fallback unknown _ =>
    rw [unknown]
    exact ⟨rfl, h.lookup _ _ _ _⟩
  | stored _ provided =>
    rw [provided?, hoffline] at provided
    cases provided

/-- **A script without a provider** gives the same from every store that recalls the same. -/
theorem Script.run_offline {α : Type} (hoffline : env.provider = offline) (s : Script α)
    (htime : (∀ n, env.clock n = env.clock 0) ∨ s.Timeless) :
    ∃ a, ∀ st, Recalls env known st →
      (s.run env st).1 = a ∧ Recalls env known (s.run env st).2 := by
  induction s with
  | done a => exact ⟨a, fun st h => ⟨rfl, h⟩⟩
  | look next ih =>
    rcases htime with hclock | htimeless
    · obtain ⟨a, ha⟩ := ih (env.clock 0) (.inl hclock)
      refine ⟨a, fun st h => ?_⟩
      rw [run_look, hclock]
      exact ha _ h
    · exact htimeless.elim
  | ask kind input next ih =>
    obtain ⟨a, ha⟩ := ih (recalled known kind input) (htime.imp_right fun h => h _)
    refine ⟨a, fun st h => ?_⟩
    obtain ⟨hvalue, hrecalls⟩ := enrich_offline hoffline h kind input
    rw [run_ask, hvalue]
    exact ha _ hrecalls

end Enrichment

end RecordFormula
