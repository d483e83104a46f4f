import RecordFormula.Enrichment.Service
import RecordFormula.Proofs.Enrichment.Answers
import RecordFormula.Proofs.Enrichment.Caching

/-!
# What a request does

A request to the service ends in one of three ways. The cache has an answer that can be read; or it
has none, and the provider has none either; or the provider has one, which is added to the cache.

* `Session.bind_apply` and the like — the steps of a session, applied to what it starts from.
* `Apart` — no two different requests have the same cache key.
* `Enriching` — the three ways, with what is returned and what is left behind.
* **Every request ends in one of them** (`enrich_spec`).
* `answer?` — what a provider answers to a request after others; `Provider.Proper` — its answers can
  be read again once they have been stored (`decode?_encode_of_answer?`).
-/

namespace RecordFormula

namespace Enrichment

/-! ### Steps -/

section steps

variable {α β : Type} (env : Environment) (st : Store)

/-- One session after the other. -/
@[simp] theorem Session.bind_apply (m : Session α) (f : α → Session β) :
    (m >>= f) env st = f (m env st).1 env (m env st).2 := rfl

/-- Looking into the cache. -/
theorem Session.cached?_apply (key : String) :
    Session.cached? key env st =
      ((st.cache.lookup (env.clock st.ticks) key).1,
        ⟨(st.cache.lookup (env.clock st.ticks) key).2, st.requests, st.ticks + 1⟩) := rfl

/-- Asking the provider. -/
theorem Session.ask_apply (kind : Kind) (input : Json) :
    Session.ask kind input env st =
      ((env.provider st.requests ⟨kind, input⟩).body?,
        { st with requests := ⟨kind, input⟩ :: st.requests }) := by
  have hget : (get : Session Store) env st = (st, st) := rfl
  have hset : ∀ s : Store, (set s : Session PUnit) env st = (⟨⟩, s) := fun _ => rfl
  have hread : ∀ s, (read : Session Environment) env s = (env, s) := fun _ => rfl
  simp only [Session.ask, Session.bind_apply, hget, hset, hread]
  cases env.provider st.requests ⟨kind, input⟩ <;> rfl

end steps

/-! ### Kinds and their answers -/

section kinds

instance : (kind : Kind) → LawfulAnswer kind.Result
  | .companyInfo => inferInstanceAs (LawfulAnswer CompanyProfile)
  | .emailCompletion => inferInstanceAs (LawfulAnswer EmailSuggestion)
  | .phoneCompletion => inferInstanceAs (LawfulAnswer PhoneSuggestion)
  | .leadScore => inferInstanceAs (LawfulAnswer LeadScore)

/-- The answers to requests of a kind answer requests of this kind. -/
@[simp] theorem kind_result (kind : Kind) : Answer.kind kind.Result = kind := by
  cases kind <;> rfl

end kinds

/-! ### Keys -/

section keys

/-- Different requests have different cache keys. -/
def Apart (requests : List Request) : Prop :=
  ∀ p ∈ requests, ∀ q ∈ requests, key p.kind p.input = key q.kind q.input → p = q

/-- Fewer requests are apart if more are. -/
theorem Apart.mono {rs rs' : List Request} (h : Apart rs') (hsub : rs ⊆ rs') : Apart rs :=
  fun p hp q hq => h p (hsub hp) q (hsub hq)

/-- One request is apart from itself, however often it is made. -/
theorem Apart.of_forall_eq {requests : List Request} {r : Request} (h : ∀ p ∈ requests, p = r) :
    Apart requests :=
  fun p hp q hq _ => (h p hp).trans (h q hq).symm

end keys

/-! ### The three ways -/

section ways

variable {α : Type} [Answer α]

/-- The answer that the cache has to a request, if it has one that still counts and can be read. -/
def known? (α : Type) [Answer α] (env : Environment) (st : Store) (input : Json) : Option α :=
  (st.cache.lookup (env.clock st.ticks) (key (Answer.kind α) input)).1.bind fun e =>
    Answer.decode? e.result

/-- The answer that the provider has to a request, if it has one that can be read. -/
def provided? (α : Type) [Answer α] (env : Environment) (st : Store) (input : Json) : Option α :=
  (env.provider st.requests ⟨Answer.kind α, input⟩).body?.bind Answer.decode?

/-- The cache after a request has been looked up. -/
def lookedUp (α : Type) [Answer α] (env : Environment) (st : Store) (input : Json) : Cache :=
  (st.cache.lookup (env.clock st.ticks) (key (Answer.kind α) input)).2

/-- What a request gives and what it leaves behind. -/
inductive Enriching (env : Environment) (st : Store) (input : Json) : Enriched α × Store → Prop
  /-- The cache has an answer. -/
  | hit {a : α} (known : known? α env st input = some a) :
    Enriching env st input (⟨Answer.normalize a, true⟩,
      ⟨lookedUp α env st input, st.requests, st.ticks + 1⟩)
  /-- Nobody has an answer. -/
  | fallback (unknown : known? α env st input = none)
      (unanswered : provided? α env st input = none) :
    Enriching env st input (Enriched.fallback,
      ⟨lookedUp α env st input, ⟨Answer.kind α, input⟩ :: st.requests, st.ticks + 1⟩)
  /-- The provider has an answer. -/
  | stored {a : α} (unknown : known? α env st input = none)
      (provided : provided? α env st input = some a) :
    Enriching env st input (⟨Answer.normalize a, false⟩,
      ⟨(lookedUp α env st input).store (env.clock (st.ticks + 1)) env.ttl
          ⟨key (Answer.kind α) input, Answer.kind α, input, Answer.encode (Answer.normalize a), 0⟩,
        ⟨Answer.kind α, input⟩ :: st.requests, st.ticks + 2⟩)

/-- What comes of a request that is made to the provider. -/
theorem fetch_apply (key : String) (input : Json) (env : Environment) (st : Store) :
    (fetch key input : Session (Enriched α)) env st =
      match provided? α env st input with
      | none => (Enriched.fallback, { st with requests := ⟨Answer.kind α, input⟩ :: st.requests })
      | some a => (⟨Answer.normalize a, false⟩,
        ⟨st.cache.store (env.clock st.ticks) env.ttl
            ⟨key, Answer.kind α, input, Answer.encode (Answer.normalize a), 0⟩,
          ⟨Answer.kind α, input⟩ :: st.requests, st.ticks + 1⟩) := by
  simp only [fetch, Session.bind_apply, Session.ask_apply]
  rw [show (env.provider st.requests ⟨Answer.kind α, input⟩).body?.bind Answer.decode? =
    provided? α env st input from rfl]
  cases provided? α env st input <;> rfl

/-- What comes of a request, by what the cache knows. -/
theorem enrich_apply (input : Json) (env : Environment) (st : Store) :
    enrich α input env st =
      match known? α env st input with
      | none => (fetch (key (Answer.kind α) input) input : Session (Enriched α)) env
          ⟨lookedUp α env st input, st.requests, st.ticks + 1⟩
      | some a => (⟨Answer.normalize a, true⟩,
          ⟨lookedUp α env st input, st.requests, st.ticks + 1⟩) := by
  simp only [enrich, Session.bind_apply, Session.cached?_apply]
  rw [show (st.cache.lookup (env.clock st.ticks) (key (Answer.kind α) input)).1.bind
    (fun e => Answer.decode? e.result) = known? α env st input from rfl]
  cases known? α env st input <;> rfl

/-- **Every request ends in one of three ways.** -/
theorem enrich_spec (env : Environment) (st : Store) (input : Json) :
    Enriching env st input (enrich α input env st) := by
  rw [enrich_apply]
  cases hknown : known? α env st input with
  | some a => exact .hit hknown
  | none =>
    simp only [fetch_apply]
    rw [show provided? α env ⟨lookedUp α env st input, st.requests, st.ticks + 1⟩ input =
      provided? α env st input from rfl]
    cases hprovided : provided? α env st input with
    | none => exact .fallback hknown hprovided
    | some a => exact .stored hknown hprovided

/-- A request does not change the room of the cache. -/
theorem capacity_enrich (env : Environment) (st : Store) (input : Json) :
    (enrich α input env st).2.cache.capacity = st.cache.capacity := by
  have h := enrich_spec (α := α) env st input
  generalize enrich α input env st = p at h ⊢
  cases h <;> exact Cache.capacity_lookup ..

/-- A request is made to the provider once at most. -/
theorem requests_enrich (env : Environment) (st : Store) (input : Json) :
    (enrich α input env st).2.requests = st.requests ∨
      (enrich α input env st).2.requests = ⟨Answer.kind α, input⟩ :: st.requests := by
  have h := enrich_spec (α := α) env st input
  generalize enrich α input env st = p at h ⊢
  cases h
  · exact .inl rfl
  · exact .inr rfl
  · exact .inr rfl

end ways

/-! ### Answers -/

section answers

variable {env : Environment} {kind : Kind} {input : Json} {requests : List Request}

/-- What a provider answers to a request after earlier ones, if it answers in time with a document
that can be read. -/
def answer? (provider : Provider) (kind : Kind) (input : Json) (earlier : List Request) :
    Option kind.Result :=
  (provider earlier ⟨kind, input⟩).body?.bind Answer.decode?

/-- What the provider has for a request is its answer after the requests so far. -/
theorem provided?_eq (env : Environment) (st : Store) (kind : Kind) (input : Json) :
    provided? kind.Result env st input = answer? env.provider kind input st.requests := by
  rw [provided?, answer?, kind_result]

/-- All bodies that a provider answers with are documents whose numbers have a spelling, as those
are that can be read from a text. -/
def Provider.Proper (provider : Provider) : Prop :=
  ∀ earlier r j, provider earlier r = .body j → j.Proper

/-- An answer that can be read can be read again once it has been stored. -/
theorem decode?_encode_of_answer? (hbodies : env.provider.Proper) {a : kind.Result}
    (h : answer? env.provider kind input requests = some a) :
    Answer.decode? (Answer.encode (Answer.normalize a)) = some (Answer.normalize a) := by
  obtain ⟨j, hbody, hdecode⟩ := Option.bind_eq_some_iff.mp h
  refine LawfulAnswer.decode_encode_normalize (j := j) (hbodies requests ⟨kind, input⟩ j ?_) hdecode
  cases hreply : env.provider requests ⟨kind, input⟩ with
  | body j' =>
    rw [hreply] at hbody
    obtain rfl := Option.some.inj hbody
    rfl
  | _ =>
    rw [hreply] at hbody
    cases hbody

end answers

end Enrichment

end RecordFormula
