import RecordFormula.Enrichment.Cache

/-!
# Sessions

A session is a computation that may look at the clock, ask the provider and use the cache. What it
is given from outside (`Environment`) does not change; what it leaves behind (`Store`) does.

* `Enrichment.Provider`, `Enrichment.Reply` — who answers requests, and how;
* `Enrichment.Session` — the computations;
* `Session.now`, `Session.cached?`, `Session.remember`, `Session.ask` — their steps.
-/

namespace RecordFormula

namespace Enrichment

/-- A request to the provider. -/
structure Request where
  /-- What is asked for. -/
  kind : Kind
  /-- What it is asked about. -/
  input : Json

/-- What the provider does about a request. -/
inductive Reply where
  /-- It answers in time. -/
  | body (j : Json)
  /-- It answers with a status that is not success. -/
  | status (code : Nat)
  /-- It answers with a text that is no document. -/
  | malformed (text : String)
  /-- It does not answer before the deadline. -/
  | stall
  /-- There is no provider. -/
  | notConfigured

/-- The document that a provider answers with. -/
def Reply.body? : Reply → Option Json
  | .body j => some j
  | _ => none

/-- Who answers requests. An answer may depend on the requests made before, the latest first. -/
abbrev Provider := List Request → Request → Reply

/-- The provider of an engine that has none. -/
def offline : Provider := fun _ _ => .notConfigured

/-- What a session is given from outside. -/
structure Environment where
  /-- Who answers requests. -/
  provider : Provider
  /-- What the clock shows when it is looked at for the n-th time, in milliseconds since 1970. -/
  clock : Nat → Int
  /-- How long answers count, in milliseconds. -/
  ttl : Nat

/-- What a session leaves behind. -/
structure Store where
  /-- The answers known so far. -/
  cache : Cache
  /-- The requests made so far, the latest first. -/
  requests : List Request
  /-- How often the clock has been looked at. -/
  ticks : Nat

/-- The store before anything has happened. -/
def Store.initial (capacity : Nat) : Store := ⟨Cache.empty capacity, [], 0⟩

/-- A computation with an environment and a store. -/
abbrev Session := ReaderT Environment (StateM Store)

namespace Session

/-- Looks at the clock. -/
def now : Session Int := do
  let s ← get
  set { s with ticks := s.ticks + 1 }
  return (← read).clock s.ticks

/-- The answer under a key, if it still counts. -/
def cached? (key : String) : Session (Option Entry) := do
  let t ← now
  let s ← get
  let (entry, cache) := s.cache.lookup t key
  set { s with cache }
  return entry

/-- Adds an answer to the cache, for so many milliseconds. -/
def remember (e : Entry) (ttl : Nat) : Session Unit := do
  let t ← now
  modify fun s => { s with cache := s.cache.store t ttl e }

/-- Makes a request. Whatever is not an answer in time is none. -/
def ask (kind : Kind) (input : Json) : Session (Option Json) := do
  let s ← get
  let request := ⟨kind, input⟩
  set { s with requests := request :: s.requests }
  match (← read).provider s.requests request with
  | .body j => return some j
  | _ => return none

end Session

end Enrichment

end RecordFormula
