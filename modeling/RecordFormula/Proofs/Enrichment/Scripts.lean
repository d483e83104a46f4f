import RecordFormula.Proofs.Enrichment.Requests

/-!
# Scripts

A script is a session spelled out: it looks at the clock or makes a request, and goes on in a way
that depends on the answer alone. Whatever a formula does in one go is a script, and what is true of
every look and every request is proved of a script by induction.

* `Script`, `Script.run` — the scripts and the sessions that they are.
* `Script.Timeless`, `Script.Brief` — scripts without a look at the clock, and of one request.
* `Script.consulted` — what a script asks for when it is run.
* **One script after the other** (`Script.run_bind`).
* **The requests of the service are brief** (`companyInfo_brief` and the like).
-/

namespace RecordFormula

namespace Enrichment

/-! ### Scripts -/

/-- A session spelled out. -/
inductive Script (α : Type) : Type where
  /-- It ends. -/
  | done (a : α)
  /-- It looks at the clock. -/
  | look (next : Int → Script α)
  /-- It makes a request. -/
  | ask (kind : Kind) (input : Json) (next : kind.Result → Script α)

namespace Script

variable {α β : Type}

/-- The session that a script spells out. -/
def run : Script α → Session α
  | done a => pure a
  | look next => do (next (← Session.now)).run
  | ask kind input next => do (next (← enrich kind.Result input).value).run

/-- One script after the other. -/
def bind : Script α → (α → Script β) → Script β
  | done a, f => f a
  | look next, f => look fun t => (next t).bind f
  | ask kind input next, f => ask kind input fun a => (next a).bind f

/-- The script does not look at the clock. -/
def Timeless : Script α → Prop
  | done _ => True
  | look _ => False
  | ask _ _ next => ∀ a, (next a).Timeless

/-- The script makes one request at most and does nothing else. -/
def Brief : Script α → Prop
  | done _ => True
  | look _ => False
  | ask _ _ next => ∀ a, ∃ b, next a = done b

/-- What the script asks for when it is run, from the first to the last. -/
def consulted (env : Environment) : Store → Script α → List Request
  | _, done _ => []
  | st, look next =>
    (next (env.clock st.ticks)).consulted env { st with ticks := st.ticks + 1 }
  | st, ask kind input next =>
    ⟨kind, input⟩ :: (next (enrich kind.Result input env st).1.value).consulted env
      (enrich kind.Result input env st).2

/-! ### One after the other -/

section sequences

variable (env : Environment)

/-- A script that looks at the clock, run. -/
@[simp] theorem run_look (next : Int → Script α) (st : Store) :
    (look next).run env st =
      (next (env.clock st.ticks)).run env { st with ticks := st.ticks + 1 } := rfl

/-- A script that makes a request, run. -/
@[simp] theorem run_ask (kind : Kind) (input : Json) (next : kind.Result → Script α) (st : Store) :
    (ask kind input next).run env st =
      (next (enrich kind.Result input env st).1.value).run env
        (enrich kind.Result input env st).2 := rfl

/-- **Running one script after the other is running one and then the other.** -/
theorem run_bind (s : Script α) (k : α → Script β) :
    (s.bind k).run = s.run >>= fun a => (k a).run := by
  funext env st
  rw [Session.bind_apply]
  induction s generalizing st with
  | done a => rfl
  | look next ih => exact ih _ _
  | ask kind input next ih => exact ih _ _

/-- Scripts without a look at the clock, one after the other. -/
theorem Timeless.bind {s : Script α} {k : α → Script β} (hs : s.Timeless)
    (hk : ∀ a, (k a).Timeless) : (s.bind k).Timeless := by
  induction s with
  | done a => exact hk a
  | look next => exact hs.elim
  | ask kind input next ih => exact fun a => ih a (hs a)

/-- A script of one request does not look at the clock. -/
theorem Brief.timeless {s : Script α} (h : s.Brief) : s.Timeless := by
  cases s with
  | done a => trivial
  | look next => exact h.elim
  | ask kind input next =>
    intro a
    obtain ⟨b, hb⟩ := h a
    rw [hb]
    trivial

end sequences

end Script

/-! ### Brief sessions -/

section brief

variable {α β : Type}

/-- The session is a script of one request at most. -/
def Session.Brief (m : Session α) : Prop := ∃ s : Script α, s.Brief ∧ s.run = m

/-- Changing the result of a session changes none of its requests. -/
theorem Session.Brief.map {m : Session α} (h : m.Brief) (g : α → β) :
    Session.Brief (g <$> m) := by
  obtain ⟨s, hs, rfl⟩ := h
  refine ⟨s.bind fun a => .done (g a), ?_, ?_⟩
  · cases s with
    | done a => trivial
    | look next => exact hs.elim
    | ask kind input next =>
      intro a
      obtain ⟨b, hb⟩ := hs a
      exact ⟨g b, by simp only [hb, Script.bind]⟩
  · rw [Script.run_bind]
    rfl

/-- A session that gives a result at once asks for nothing. -/
theorem Session.Brief.pure (a : α) : Session.Brief (Pure.pure a : Session α) :=
  ⟨.done a, trivial, rfl⟩

/-- What the service is asked for is one request. -/
theorem Session.Brief.enrich (kind : Kind) (input : Json) :
    Session.Brief (Enriched.value <$> Enrichment.enrich kind.Result input) :=
  ⟨.ask kind input .done, fun a => ⟨a, rfl⟩, rfl⟩

/-- What the service is asked for, if there is anything to ask, is one request. -/
theorem Session.Brief.consult (kind : Kind) (input? : Option Json) :
    Session.Brief (Enriched.value <$> Enrichment.consult kind.Result input?) := by
  cases input? with
  | none => exact .pure Answer.fallback
  | some input => exact .enrich kind input

/-- What is known about a company is one request. -/
theorem companyInfo_brief (name : String) : Session.Brief (Enriched.value <$> companyInfo name) :=
  .consult .companyInfo (companyInput? name)

/-- The address of a person is one request. -/
theorem completeEmail_brief (first last domain : String) :
    Session.Brief (Enriched.value <$> completeEmail first last domain) :=
  .consult .emailCompletion (emailInput? first last domain)

/-- The telephone number of a person is one request. -/
theorem completePhone_brief (first last company : String) :
    Session.Brief (Enriched.value <$> completePhone first last company) :=
  .consult .phoneCompletion (phoneInput? first last company)

/-- The score of a record is one request. -/
theorem leadScore_brief (record : Json) : Session.Brief (Enriched.value <$> leadScore record) :=
  .consult .leadScore (scoreInput? record)

end brief

end Enrichment

end RecordFormula
