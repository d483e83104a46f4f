/-!
# A short digest

The 64-bit digest that multiplies by a prime after taking in each number. It spreads keys over the
places of a table.

* `Fnv.digest` — the digest of a list of numbers.
-/

namespace RecordFormula

namespace Fnv

/-- The digest of no numbers. -/
def start : UInt64 := 14695981039346656037

/-- What a digest is multiplied by. -/
def prime : UInt64 := 1099511628211

/-- Takes one more number into a digest. -/
def step (digest : UInt64) (n : Nat) : UInt64 := (digest ^^^ UInt64.ofNat n) * prime

/-- The digest of a list of numbers. -/
def digest (ns : List Nat) : UInt64 := ns.foldl step start

end Fnv

end RecordFormula
