import RecordFormula.Enrichment.Service

/-!
# Polling

A session runs from its start to its end in one go. An engine is used in another way: it is polled.
A poll goes on until an answer is needed that has not come yet; what waits for the answer is polled
again later, and in the meantime other requests are made and answered.

A request is looked up and made to the provider in one poll. Its answer is taken and stored in one
poll as well, which may be a later one.

* `Enrichment.Event`, `Enrichment.Course` — what happens to an engine, and what has happened so far;
* `Enrichment.Circumstances`, `Enrichment.Polling` — what a poll is given from outside, and its
  computations;
* `Enrichment.Enquiry`, `Enrichment.Waiting` — a request before it is made, and while its answer is
  waited for;
* `Enquiry.start`, `Waiting.poll` — the first poll of a request, and the later ones.
-/

namespace RecordFormula

namespace Enrichment

/-! ## What happens -/

/-- Something that happens to an engine. -/
inductive Event where
  /-- The provider is asked. -/
  | asked (r : Request)
  /-- The provider's answer to a request is taken. -/
  | answered (r : Request) (reply : Reply)
  /-- An answer is added to the cache. -/
  | stored (e : Entry)
  /-- The service gives the result of a request. -/
  | served (kind : Kind) (input : Json) (result : Enriched kind.Result)
  /-- Nobody waits for the answer to a request any more. -/
  | dropped (r : Request)

/-- What has become of an engine. -/
structure Course where
  /-- What is left behind. -/
  store : Store
  /-- What has happened, the latest first. -/
  events : List Event

/-- What a poll is given from outside. -/
structure Circumstances where
  /-- What sessions are given. -/
  env : Environment
  /-- Has the answer to the n-th request come? Requests are counted from zero. -/
  arrived : Nat → Bool
  /-- If one of so many computations that are polled together fails, does this count only when those
  before it have ended? -/
  patient : Nat → Bool

/-- A computation of a poll. -/
abbrev Polling := ReaderT Circumstances (StateM Course)

namespace Polling

/-- A session in one go. -/
def ofSession {α : Type} (m : Session α) : Polling α := fun c s =>
  let (a, store) := m c.env s.store
  (a, { s with store })

/-- Puts down what happens. -/
def note (e : Event) : Polling Unit := modify fun s => { s with events := e :: s.events }

/-- Adds an answer to the cache. -/
def remember (e : Entry) : Polling Unit := do
  let c ← read
  let s ← get
  ofSession (Session.remember e c.env.ttl)
  note (.stored { e with expiresAt := expiry (c.env.clock s.store.ticks) c.env.ttl })

/-- Gives up waiting for answers. -/
def giveUp (requests : List Request) : Polling Unit :=
  modify fun s => { s with events := requests.map .dropped ++ s.events }

end Polling

open Polling

/-! ## Requests -/

/-- What a caller wants from the service: the answer to a request, if there is anything to ask. -/
structure Enquiry (α : Type) where
  /-- What is asked for. -/
  kind : Kind
  /-- What it is asked about, if anything. -/
  input? : Option Json
  /-- What is made of the answer. -/
  use : kind.Result → α

/-- Makes something else of the answer. -/
def Enquiry.map {α β : Type} (f : α → β) (q : Enquiry α) : Enquiry β :=
  ⟨q.kind, q.input?, fun a => f (q.use a)⟩

/-- A request that has been made, and whose answer is waited for. -/
structure Waiting (α : Type) where
  /-- The requests made before, the latest first. -/
  earlier : List Request
  /-- What is asked for. -/
  kind : Kind
  /-- What it is asked about. -/
  input : Json
  /-- What is made of the answer. -/
  use : kind.Result → α

/-- The request itself. -/
def Waiting.request {α : Type} (w : Waiting α) : Request := ⟨w.kind, w.input⟩

/-- An enquiry that has been polled. -/
inductive Enquiry.State (α : Type) where
  /-- It has its result. -/
  | ended (a : α)
  /-- It waits for an answer. -/
  | waiting (w : Waiting α)

/-- The result of a request that the cache has. -/
def fromCache (α : Type) [Answer α] (input : Json) : Session (Option (Enriched α)) := do
  let known : Option α :=
    (← Session.cached? (key (Answer.kind α) input)).bind fun e => Answer.decode? e.result
  return known.map fun a => ⟨Answer.normalize a, true⟩

/-- Makes a request; gives the requests made before it. -/
def Session.request (r : Request) : Session (List Request) := do
  let s ← get
  set { s with requests := r :: s.requests }
  return s.requests

/-- The result of a request, by what the provider has for it. -/
def conclude (kind : Kind) (input : Json) : Option kind.Result → Polling (Enriched kind.Result)
  | none => do
    note (.served kind input Enriched.fallback)
    return Enriched.fallback
  | some a => do
    let result : Enriched kind.Result := ⟨Answer.normalize a, false⟩
    remember ⟨key kind input, kind, input, Answer.encode result.value, 0⟩
    note (.served kind input result)
    return result

/-- The result of a request that the provider has dealt with. -/
def receive (kind : Kind) (input : Json) (reply : Reply) : Polling (Enriched kind.Result) := do
  note (.answered ⟨kind, input⟩ reply)
  conclude kind input (reply.body?.bind Answer.decode?)

/-- Polls a request again: takes its answer, if it has come. -/
def Waiting.poll {α : Type} (w : Waiting α) : Polling (Enquiry.State α) := do
  let c ← read
  if c.arrived w.earlier.length then
    let result ← receive w.kind w.input (c.env.provider w.earlier w.request)
    return .ended (w.use result.value)
  else return .waiting w

/-- Goes on with a request that has been looked up: makes it, if the cache has no answer. -/
def Enquiry.proceed {α : Type} (q : Enquiry α) (input : Json) :
    Option (Enriched q.kind.Result) → Polling (State α)
  | some result => do
    note (.served q.kind input result)
    return .ended (q.use result.value)
  | none => do
    let earlier ← ofSession (Session.request ⟨q.kind, input⟩)
    note (.asked ⟨q.kind, input⟩)
    Waiting.poll ⟨earlier, q.kind, input, q.use⟩

/-- Polls a request for the first time. -/
def Enquiry.start {α : Type} (q : Enquiry α) : Polling (State α) :=
  match q.input? with
  | none => return .ended (q.use Answer.fallback)
  | some input => do q.proceed input (← ofSession (fromCache q.kind.Result input))

end Enrichment

end RecordFormula
