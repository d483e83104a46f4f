import Mathlib.Data.Multiset.AddSub
import Mathlib.Logic.Relation
import RecordFormula.Enrichment.Polling
import RecordFormula.Proofs.Enrichment.Requests

/-!
# What an engine does, step by step

Whatever is polled, and in whatever order, an engine does the same few things one after the other.
What each of them preserves is preserved by all polls.

* `Event.request` — the request that an event is about.
* `Course.storing` — what becomes of an engine that takes an answer and stores it.
* `Situation` — what has become of an engine, with the requests whose answers are waited for.
* `Situation.Step` — the things that an engine does; `Situation.Run` — any number of them.
* `Polling.Runs` — a computation of a poll that does nothing else.
* **No request is lost** (`Situation.Run.accounts`): each that is made is answered, given up, or
  waited for.
* **The polls of a request are runs** (`Enquiry.runs_start`, `Waiting.runs_poll`).
-/

namespace RecordFormula

namespace Enrichment

/-- The request that an event is about. -/
def Event.request : Event → Request
  | .asked r => r
  | .answered r _ => r
  | .stored e => ⟨e.kind, e.input⟩
  | .served kind input _ => ⟨kind, input⟩
  | .dropped r => r

/-- The entry of an answer, with the moment at which it expires. -/
def entry (kind : Kind) (input : Json) (a : kind.Result) (expiresAt : Int) : Entry :=
  ⟨key kind input, kind, input, Answer.encode (Answer.normalize a), expiresAt⟩

/-- What becomes of an engine that takes an answer and stores it. -/
def Course.storing (s : Course) (env : Environment) (kind : Kind) (input : Json) (reply : Reply)
    (a : kind.Result) : Course where
  store := ⟨s.store.cache.store (env.clock s.store.ticks) env.ttl (entry kind input a 0),
    s.store.requests, s.store.ticks + 1⟩
  events := .served kind input ⟨Answer.normalize a, false⟩ ::
    .stored (entry kind input a (expiry (env.clock s.store.ticks) env.ttl)) ::
    .answered ⟨kind, input⟩ reply :: s.events

/-! ### Steps -/

/-- What has become of an engine, and what it waits for. -/
structure Situation where
  /-- The requests whose answers are waited for. -/
  waiting : Multiset Request
  /-- What has become of the engine. -/
  course : Course

namespace Situation

variable {env : Environment} {σ σ' : Situation}

/-- One thing that an engine does. -/
inductive Step (env : Environment) : Situation → Situation → Prop
  /-- It looks at the clock. -/
  | look {w s} : Step env ⟨w, s⟩ ⟨w, ⟨{ s.store with ticks := s.store.ticks + 1 }, s.events⟩⟩
  /-- It finds the answer to a request in the cache. -/
  | recalled {w s} {kind : Kind} {input : Json} {a : kind.Result}
      (known : known? kind.Result env s.store input = some a) :
    Step env ⟨w, s⟩
      ⟨w, ⟨lookedUp kind.Result env s.store input, s.store.requests, s.store.ticks + 1⟩,
        .served kind input ⟨Answer.normalize a, true⟩ :: s.events⟩
  /-- It finds none, and asks the provider. -/
  | asked {w s} {kind : Kind} {input : Json}
      (unknown : known? kind.Result env s.store input = none) :
    Step env ⟨w, s⟩
      ⟨⟨kind, input⟩ ::ₘ w,
        ⟨lookedUp kind.Result env s.store input, ⟨kind, input⟩ :: s.store.requests,
          s.store.ticks + 1⟩,
        .asked ⟨kind, input⟩ :: s.events⟩
  /-- It takes an answer that cannot be read, or takes note that there is none in time. -/
  | failed {w s} {kind : Kind} {input : Json} {earlier : List Request}
      (unreadable : answer? env.provider kind input earlier = none) :
    Step env ⟨⟨kind, input⟩ ::ₘ w, s⟩
      ⟨w, s.store, .served kind input Enriched.fallback ::
        .answered ⟨kind, input⟩ (env.provider earlier ⟨kind, input⟩) :: s.events⟩
  /-- It takes an answer and stores it. -/
  | stored {w s} {kind : Kind} {input : Json} {earlier : List Request} {a : kind.Result}
      (readable : answer? env.provider kind input earlier = some a) :
    Step env ⟨⟨kind, input⟩ ::ₘ w, s⟩
      ⟨w, s.storing env kind input (env.provider earlier ⟨kind, input⟩) a⟩
  /-- It gives up a request. -/
  | dropped {w s} (r : Request) : Step env ⟨r ::ₘ w, s⟩ ⟨w, s.store, .dropped r :: s.events⟩

/-- Any number of things that an engine does. -/
abbrev Run (env : Environment) : Situation → Situation → Prop :=
  Relation.ReflTransGen (Step env)

/-! ### What steps leave alone -/

/-- Nothing is taken back: what has happened has happened, the requests have been made, and the
clock has been looked at. -/
theorem Step.grows (h : Step env σ σ') :
    σ.course.events <:+ σ'.course.events ∧
      σ.course.store.requests <:+ σ'.course.store.requests ∧
      σ.course.store.ticks ≤ σ'.course.store.ticks := by
  cases h with
  | look => exact ⟨List.suffix_refl _, List.suffix_refl _, Nat.le_succ _⟩
  | recalled => exact ⟨List.suffix_cons _ _, List.suffix_refl _, Nat.le_succ _⟩
  | asked => exact ⟨List.suffix_cons _ _, List.suffix_cons _ _, Nat.le_succ _⟩
  | failed => exact ⟨⟨[_, _], rfl⟩, List.suffix_refl _, Nat.le_refl _⟩
  | stored => exact ⟨⟨[_, _, _], rfl⟩, List.suffix_refl _, Nat.le_succ _⟩
  | dropped => exact ⟨List.suffix_cons _ _, List.suffix_refl _, Nat.le_refl _⟩

/-- Nor by any number of steps. -/
theorem Run.grows (h : Run env σ σ') :
    σ.course.events <:+ σ'.course.events ∧
      σ.course.store.requests <:+ σ'.course.store.requests ∧
      σ.course.store.ticks ≤ σ'.course.store.ticks := by
  induction h with
  | refl => exact ⟨List.suffix_refl _, List.suffix_refl _, Nat.le_refl _⟩
  | tail _ hstep ih =>
    obtain ⟨hevents, hrequests, hticks⟩ := hstep.grows
    exact ⟨ih.1.trans hevents, ih.2.1.trans hrequests, ih.2.2.trans hticks⟩

/-- What happens on behalf of one caller happens beside what others wait for. -/
theorem Step.beside (h : Step env σ σ') (w : Multiset Request) :
    Step env ⟨σ.waiting + w, σ.course⟩ ⟨σ'.waiting + w, σ'.course⟩ := by
  cases h with
  | look => exact .look
  | recalled known => exact .recalled known
  | asked unknown =>
    rw [Multiset.cons_add]
    exact .asked unknown
  | failed unreadable =>
    rw [Multiset.cons_add]
    exact .failed unreadable
  | stored readable =>
    rw [Multiset.cons_add]
    exact .stored readable
  | dropped r =>
    rw [Multiset.cons_add]
    exact .dropped r

/-- So does all that happens on behalf of one caller. -/
theorem Run.beside (h : Run env σ σ') (w : Multiset Request) :
    Run env ⟨σ.waiting + w, σ.course⟩ ⟨σ'.waiting + w, σ'.course⟩ := by
  induction h with
  | refl => exact .refl
  | tail _ hstep ih => exact ih.tail (hstep.beside w)

/-- What has happened before makes no difference to what an engine does. -/
theorem Step.after (h : Step env σ σ') (events : List Event) :
    Step env ⟨σ.waiting, σ.course.store, σ.course.events ++ events⟩
      ⟨σ'.waiting, σ'.course.store, σ'.course.events ++ events⟩ := by
  cases h with
  | look => exact .look
  | recalled known => exact .recalled known
  | asked unknown => exact .asked unknown
  | failed unreadable => exact .failed unreadable
  | stored readable => exact .stored readable
  | dropped r => exact .dropped r

/-- Nor to any number of steps. -/
theorem Run.after (h : Run env σ σ') (events : List Event) :
    Run env ⟨σ.waiting, σ.course.store, σ.course.events ++ events⟩
      ⟨σ'.waiting, σ'.course.store, σ'.course.events ++ events⟩ := by
  induction h with
  | refl => exact .refl
  | tail _ hstep ih => exact ih.tail (hstep.after events)

/-- Giving up requests. -/
theorem run_giveUp (requests : List Request) (w : Multiset Request) (s : Course) :
    Run env ⟨requests + w, s⟩ ⟨w, s.store, requests.map .dropped ++ s.events⟩ := by
  induction requests generalizing w with
  | nil =>
    rw [Multiset.coe_nil, zero_add]
    exact .refl
  | cons r rest ih =>
    rw [← Multiset.cons_coe, Multiset.cons_add, ← Multiset.add_cons]
    exact (ih (r ::ₘ w)).tail (.dropped r)

/-! ### No request is lost -/

/-- The requests that have been made. -/
def made (events : List Event) : Multiset Request :=
  (events.filterMap fun | .asked r => some r | _ => none : List Request)

/-- The requests whose answers have been taken. -/
def answered (events : List Event) : Multiset Request :=
  (events.filterMap fun | .answered r _ => some r | _ => none : List Request)

/-- The requests that have been given up. -/
def givenUp (events : List Event) : Multiset Request :=
  (events.filterMap fun | .dropped r => some r | _ => none : List Request)

/-- All requests that have been made are accounted for. -/
def Accounted (σ : Situation) : Prop :=
  made σ.course.events = answered σ.course.events + givenUp σ.course.events + σ.waiting

/-- A step accounts for the requests that it is about. -/
theorem Step.accounts (h : Step env σ σ') (hσ : σ.Accounted) : σ'.Accounted := by
  simp only [Accounted, made, answered, givenUp] at hσ ⊢
  cases h with
  | look => exact hσ
  | recalled => exact hσ
  | asked =>
    simp only [List.filterMap_cons, ← Multiset.cons_coe, Multiset.add_cons]
    rw [hσ]
  | failed =>
    simp only [List.filterMap_cons, ← Multiset.cons_coe, Multiset.cons_add]
    rw [hσ, Multiset.add_cons]
  | stored =>
    simp only [Course.storing, List.filterMap_cons, ← Multiset.cons_coe, Multiset.cons_add]
    rw [hσ, Multiset.add_cons]
  | dropped =>
    simp only [List.filterMap_cons, ← Multiset.cons_coe, Multiset.cons_add, Multiset.add_cons]
    rw [hσ, Multiset.add_cons]

/-- **No request is lost**: each that has been made has been answered, has been given up, or is
waited for. -/
theorem Run.accounts (h : Run env σ σ') (hσ : σ.Accounted) : σ'.Accounted := by
  induction h with
  | refl => exact hσ
  | tail _ hstep ih => exact hstep.accounts ih

end Situation

/-! ### Computations of polls -/

section polling

open Situation (Run)

variable {α β : Type} {m : Polling α} {before : Multiset Request} {after : α → Multiset Request}

/-- One computation after the other. -/
@[simp] theorem Polling.bind_apply (m : Polling α) (k : α → Polling β) (c : Circumstances)
    (s : Course) : (m >>= k) c s = k (m c s).1 c (m c s).2 := rfl

/-- Changing the result. -/
@[simp] theorem Polling.map_apply (f : α → β) (m : Polling α) (c : Circumstances) (s : Course) :
    (f <$> m) c s = (f (m c s).1, (m c s).2) := rfl

/-- Looking a request up. -/
theorem fromCache_apply (α : Type) [Answer α] (input : Json) (env : Environment) (st : Store) :
    fromCache α input env st = ((known? α env st input).map fun a => ⟨Answer.normalize a, true⟩,
      ⟨lookedUp α env st input, st.requests, st.ticks + 1⟩) := rfl

/-- The computation does what an engine does, and nothing else. It goes on with the requests that
are waited for before, and its result tells what is waited for after it. -/
def Polling.Runs (m : Polling α) (before : Multiset Request) (after : α → Multiset Request) :
    Prop :=
  ∀ c s, Run c.env ⟨before, s⟩ ⟨after (m c s).1, (m c s).2⟩

namespace Polling.Runs

variable {after' : β → Multiset Request}

/-- Nothing at all. -/
theorem pure (after : α → Multiset Request) (a : α) :
    Runs (Pure.pure a : Polling α) (after a) after :=
  fun _ _ => .refl

/-- One computation after the other. -/
theorem bind (hm : m.Runs before after) {k : α → Polling β}
    (hk : ∀ a, (k a).Runs (after a) after') :
    (m >>= k).Runs before after' :=
  fun c s => (hm c s).trans (hk (m c s).1 c (m c s).2)

/-- Changing the result, but not what is waited for. -/
theorem map (hm : m.Runs before after) {f : α → β} (hf : ∀ a, after' (f a) = after a) :
    (f <$> m).Runs before after' := by
  intro c s
  rw [Polling.map_apply, hf]
  exact hm c s

/-- What is waited for besides makes no difference. -/
theorem beside (hm : m.Runs before after) (w : Multiset Request) :
    m.Runs (before + w) fun a => after a + w :=
  fun c s => (hm c s).beside w

/-- Several computations, one after the other. -/
theorem mapM {f : β → Polling α} {bs : List β} {requests : β → List Request}
    {pending : α → List Request} (h : ∀ b ∈ bs, (f b).Runs (requests b) fun a => pending a) :
    (bs.mapM f).Runs (bs.flatMap requests) fun as => as.flatMap pending := by
  induction bs with
  | nil => exact .pure (fun as : List α => as.flatMap pending) []
  | cons b rest ih =>
    have hb := (h b List.mem_cons_self).beside (rest.flatMap requests)
    have hrest := ih fun b' hb' => h b' (List.mem_cons_of_mem b hb')
    rw [List.mapM_cons, List.flatMap_cons, ← Multiset.coe_add]
    refine hb.bind fun a => ?_
    rw [add_comm]
    refine (hrest.beside (pending a)).bind fun as => ?_
    rw [add_comm, Multiset.coe_add, ← List.flatMap_cons]
    exact .pure (fun as : List α => as.flatMap pending) (a :: as)

/-- Giving up requests. -/
theorem giveUp (requests : List Request) : (Polling.giveUp requests).Runs requests fun _ => 0 := by
  intro c s
  rw [← add_zero (requests : Multiset Request)]
  exact Situation.run_giveUp requests 0 s

end Polling.Runs

/-! ### Requests -/

/-- The requests whose answers an enquiry waits for. -/
def Enquiry.State.pending : Enquiry.State α → List Request
  | .ended _ => []
  | .waiting w => [w.request]

/-- Taking an answer. -/
theorem run_receive (kind : Kind) (input : Json) (c : Circumstances) (s : Course)
    (earlier : List Request) :
    Run c.env ⟨{⟨kind, input⟩}, s⟩
      ⟨0, (receive kind input (c.env.provider earlier ⟨kind, input⟩) c s).2⟩ := by
  have happly : receive kind input (c.env.provider earlier ⟨kind, input⟩) c s =
      conclude kind input (answer? c.env.provider kind input earlier) c
        ⟨s.store, .answered ⟨kind, input⟩ (c.env.provider earlier ⟨kind, input⟩) :: s.events⟩ := rfl
  rw [happly]
  cases hanswer : answer? c.env.provider kind input earlier with
  | none => exact .single (.failed hanswer)
  | some a => exact .single (.stored hanswer)

/-- What comes of polling a request again. -/
theorem Waiting.poll_apply (w : Waiting α) (c : Circumstances) (s : Course) :
    w.poll c s =
      if c.arrived w.earlier.length then
        let (result, s') := receive w.kind w.input (c.env.provider w.earlier w.request) c s
        (.ended (w.use result.value), s')
      else (.waiting w, s) := by
  show (if c.arrived w.earlier.length = true then _ else _ : Polling (Enquiry.State α)) c s = _
  split <;> rfl

/-- **Polling a request again is a run.** -/
theorem Waiting.runs_poll (w : Waiting α) : w.poll.Runs {w.request} fun state => state.pending := by
  intro c s
  rw [Waiting.poll_apply]
  split
  · exact run_receive w.kind w.input c s w.earlier
  · exact .refl

/-- What comes of polling a request for the first time, if there is anything to ask. -/
theorem Enquiry.start_apply {q : Enquiry α} {input : Json} (hinput : q.input? = some input)
    (c : Circumstances) (s : Course) :
    q.start c s =
      let looked := lookedUp q.kind.Result c.env s.store input
      match known? q.kind.Result c.env s.store input with
      | some a => (.ended (q.use (Answer.normalize a)),
          { store := ⟨looked, s.store.requests, s.store.ticks + 1⟩
            events := .served q.kind input ⟨Answer.normalize a, true⟩ :: s.events })
      | none => (⟨s.store.requests, q.kind, input, q.use⟩ : Waiting α).poll c
          { store := ⟨looked, ⟨q.kind, input⟩ :: s.store.requests, s.store.ticks + 1⟩
            events := .asked ⟨q.kind, input⟩ :: s.events } := by
  unfold Enquiry.start
  rw [hinput]
  simp only [Polling.bind_apply, Polling.ofSession, fromCache_apply]
  cases known? q.kind.Result c.env s.store input <;> rfl

/-- **Polling a request for the first time is a run.** -/
theorem Enquiry.runs_start (q : Enquiry α) : q.start.Runs 0 fun state => state.pending := by
  intro c s
  cases hinput : q.input? with
  | none =>
    unfold Enquiry.start
    rw [hinput]
    exact .refl
  | some input =>
    rw [Enquiry.start_apply hinput]
    cases hknown : known? q.kind.Result c.env s.store input with
    | some a => exact .single (.recalled hknown)
    | none =>
      have hasked := Relation.ReflTransGen.single (Situation.Step.asked (w := 0) hknown)
      exact hasked.trans (Waiting.runs_poll ⟨s.store.requests, q.kind, input, q.use⟩ c _)

end polling

end Enrichment

end RecordFormula
