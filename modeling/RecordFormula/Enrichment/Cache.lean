import RecordFormula.Enrichment.Kind

/-!
# The cache of answers

A cache holds a bounded number of answers, the most recently used first. Every answer has a moment
from which on it no longer counts; the cache drops such an answer when it is looked up.

* `Enrichment.Cache.lookup` — the answer under a key, and the cache after the look-up;
* `Enrichment.Cache.store` — the cache with an answer added.

Moments are milliseconds since the start of 1970.
-/

namespace RecordFormula

namespace Enrichment

/-- An answer in the cache. -/
structure Entry where
  /-- The key it is found under. -/
  key : String
  /-- What was asked for. -/
  kind : Kind
  /-- The request. -/
  input : Json
  /-- The answer. -/
  result : Json
  /-- The moment from which on it no longer counts. -/
  expiresAt : Int

/-- Does the answer no longer count? -/
def Entry.isExpired (e : Entry) (now : Int) : Bool := e.expiresAt ≤ now

/-- The last moment that a date can denote, the end of the year 262142. -/
def latestMoment : Int := 8210266876799999

/-- The moment at which an answer stored now expires; it is never after the last moment. -/
def expiry (now : Int) (ttl : Nat) : Int := min (now + ttl) latestMoment

/-- A bounded collection of answers. -/
structure Cache where
  /-- The greatest number of answers. -/
  capacity : Nat
  /-- The answers, the most recently used first. -/
  entries : List Entry

namespace Cache

/-- A cache without answers. It has room for one at least. -/
def empty (capacity : Nat) : Cache := ⟨max capacity 1, []⟩

/-- The number of answers, expired ones included. -/
def size (c : Cache) : Nat := c.entries.length

/-- The answer under a key, expired or not. -/
def find? (c : Cache) (key : String) : Option Entry := c.entries.find? (·.key == key)

/-- The answers under other keys. -/
def others (c : Cache) (key : String) : List Entry := c.entries.filter (·.key != key)

/-- The answer under a key, unless it is expired. It becomes the most recently used one; an expired
answer is dropped. -/
def lookup (c : Cache) (now : Int) (key : String) : Option Entry × Cache :=
  match c.find? key with
  | none => (none, c)
  | some e =>
    if e.isExpired now then (none, { c with entries := c.others key })
    else (some e, { c with entries := e :: c.others key })

/-- Adds an answer that expires after `ttl` milliseconds. It replaces the answer under its key and
becomes the most recently used one; if there is no room, the least recently used one is dropped. -/
def store (c : Cache) (now : Int) (ttl : Nat) (e : Entry) : Cache :=
  { c with
    entries := ({ e with expiresAt := expiry now ttl } :: c.others e.key).take c.capacity }

end Cache

end Enrichment

end RecordFormula
