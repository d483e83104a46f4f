import Mathlib.Tactic.Common
import RecordFormula.Enrichment.Cache

/-!
# What the cache keeps

Looking up an answer, or adding one, touches the answers under one key. Nothing else changes, except
that an added answer may push out the least recently used one.

* `Cache.mem_of_lookup`, `Cache.mem_of_store` — no other answers come in.
* **What is under other keys stays** (`Cache.find?_lookup`, `Cache.find?_store`).
* `Cache.size_lookup`, `Cache.size_store` — how many answers there are.
-/

namespace RecordFormula

namespace Enrichment

namespace Cache

variable {c : Cache} {e e' : Entry} {key k : String} {now : Int} {ttl : Nat}

/-! ### Under one key -/

section keys

/-- What is found under a key is in the cache, under this key. -/
theorem of_find?_eq_some (h : c.find? key = some e) : e ∈ c.entries ∧ e.key = key :=
  ⟨List.mem_of_find?_eq_some h, by simpa using List.find?_some h⟩

/-- Leaving out what is under one key does not change what is under another. -/
theorem find?_others (hk : k ≠ key) :
    (c.others key).find? (·.key == k) = c.find? k := by
  rw [others, List.find?_filter]
  congr 1
  funext e
  by_cases he : e.key = k <;> simp [he, hk]

/-- What is left out leaves room. -/
theorem length_others_lt (h : c.find? key = some e) : (c.others key).length < c.size := by
  obtain ⟨hmem, hkey⟩ := of_find?_eq_some h
  exact List.length_filter_lt_length_iff_exists.mpr ⟨e, hmem, by simp [hkey]⟩

/-- Leaving out what is under a key does not add anything. -/
theorem length_others_le (c : Cache) (key : String) : (c.others key).length ≤ c.size :=
  List.length_filter_le ..

end keys

/-! ### Looking up -/

section lookingUp

/-- What a look-up finds is under the key and still counts. -/
theorem of_lookup_eq_some (h : (c.lookup now key).1 = some e) :
    c.find? key = some e ∧ e.isExpired now = false := by
  unfold lookup at h
  split at h
  · cases h
  · split_ifs at h with hexp
    obtain rfl := Option.some.inj h
    exact ⟨‹_›, by simpa using hexp⟩

/-- A look-up finds what is under the key and still counts. -/
theorem lookup_eq_some (hfind : c.find? key = some e) (hlive : e.isExpired now = false) :
    (c.lookup now key).1 = some e := by
  simp [lookup, hfind, hlive]

/-- A look-up does not change the room. -/
@[simp] theorem capacity_lookup (c : Cache) (now : Int) (key : String) :
    (c.lookup now key).2.capacity = c.capacity := by
  unfold lookup
  split
  · rfl
  · split_ifs <;> rfl

/-- A look-up brings nothing in. -/
theorem mem_of_lookup (h : e ∈ (c.lookup now key).2.entries) : e ∈ c.entries := by
  unfold lookup at h
  split at h
  · exact h
  · split_ifs at h
    · exact (List.mem_filter.mp h).1
    · rcases List.mem_cons.mp h with rfl | h
      · exact (of_find?_eq_some ‹_›).1
      · exact (List.mem_filter.mp h).1

/-- A look-up does not change what is under other keys. -/
theorem find?_lookup (hk : k ≠ key) : (c.lookup now key).2.find? k = c.find? k := by
  unfold lookup
  split
  · rfl
  · split_ifs
    · exact find?_others hk
    · rename_i e hfind _
      have he : (e.key == k) = false := by
        rw [(of_find?_eq_some hfind).2]
        simpa using hk.symm
      rw [find?, List.find?_cons, he]
      exact find?_others hk

/-- What a look-up finds stays under its key. -/
theorem find?_lookup_of_some (h : (c.lookup now key).1 = some e) :
    (c.lookup now key).2.find? key = some e := by
  obtain ⟨hfind, hexp⟩ := of_lookup_eq_some h
  have hkey := (of_find?_eq_some hfind).2
  have hcache : (c.lookup now key).2.entries = e :: c.others key := by
    simp [lookup, hfind, hexp]
  simp [find?, hcache, hkey]

/-- A look-up finds what is under the key, unless it no longer counts. -/
theorem fst_lookup (c : Cache) (now : Int) (key : String) :
    (c.lookup now key).1 = (c.find? key).filter fun e => !e.isExpired now := by
  cases hfind : c.find? key with
  | none => simp [lookup, hfind]
  | some e => cases hexp : e.isExpired now <;> simp [lookup, hfind, hexp, Option.filter]

/-- What is under a key after a look-up is what the look-up has found. -/
theorem find?_lookup_self (c : Cache) (now : Int) (key : String) :
    (c.lookup now key).2.find? key = (c.lookup now key).1 := by
  cases hlookup : (c.lookup now key).1 with
  | some e => exact find?_lookup_of_some hlookup
  | none =>
    cases hfind : c.find? key with
    | none => simp [lookup, hfind]
    | some e =>
      cases hexp : e.isExpired now with
      | true =>
        have hcache : (c.lookup now key).2 = { c with entries := c.others key } := by
          simp [lookup, hfind, hexp]
        simp [hcache, find?, others]
      | false => simp [lookup, hfind, hexp] at hlookup

/-- A look-up does not change the answers under other keys. -/
theorem others_lookup (c : Cache) (now : Int) (key : String) :
    (c.lookup now key).2.others key = c.others key := by
  have htwice : (c.others key).filter (·.key != key) = c.others key := by simp [others]
  unfold lookup
  split
  · rfl
  · split_ifs
    · exact htwice
    · rename_i e hfind _
      have he : (e.key != key) = false := by simp [(of_find?_eq_some hfind).2]
      rw [others, List.filter_cons_of_neg (by simp [he]), htwice]

/-- A look-up does not make a cache larger. -/
theorem size_lookup (c : Cache) (now : Int) (key : String) :
    (c.lookup now key).2.size ≤ c.size := by
  unfold lookup
  split
  · exact Nat.le_refl _
  · split_ifs
    · exact length_others_le c key
    · exact length_others_lt ‹_›

end lookingUp

/-! ### Adding -/

section adding

/-- Adding brings in what is added, and keeps nothing else under its key. -/
theorem of_mem_store (h : e' ∈ (c.store now ttl e).entries) :
    e' = { e with expiresAt := expiry now ttl } ∨ e' ∈ c.entries ∧ e'.key ≠ e.key := by
  rcases List.mem_cons.mp (List.mem_of_mem_take h) with h | h
  · exact .inl h
  · obtain ⟨hmem, hkey⟩ := List.mem_filter.mp h
    exact .inr ⟨hmem, by simpa using hkey⟩

/-- Adding brings in what is added. -/
theorem mem_of_store (h : e' ∈ (c.store now ttl e).entries) :
    e' = { e with expiresAt := expiry now ttl } ∨ e' ∈ c.entries :=
  (of_mem_store h).imp_right And.left

/-- What is added is the newest answer, if there is any room. -/
theorem head?_store (h : 0 < c.capacity) :
    (c.store now ttl e).entries.head? = some { e with expiresAt := expiry now ttl } := by
  simp [store, List.take_cons h]

/-- What is added is under its key, if there is any room. -/
theorem find?_store_self (h : 0 < c.capacity) :
    (c.store now ttl e).find? e.key = some { e with expiresAt := expiry now ttl } := by
  simp [store, List.take_cons h, find?]

/-- Adding does not change what is under other keys, if there is room beside the answers there. -/
theorem find?_store_of_room (hroom : (c.others e.key).length < c.capacity) (hk : k ≠ e.key) :
    (c.store now ttl e).find? k = c.find? k := by
  have he : (e.key == k) = false := by simpa using hk.symm
  have hall : (({ e with expiresAt := expiry now ttl } :: c.others e.key).take c.capacity) =
      { e with expiresAt := expiry now ttl } :: c.others e.key :=
    List.take_of_length_le (by rw [List.length_cons]; exact hroom)
  simp only [store, hall]
  rw [find?, List.find?_cons, he]
  exact find?_others hk

/-- Adding does not change what is under other keys, if there is room for one more. -/
theorem find?_store (hroom : c.size < c.capacity) (hk : k ≠ e.key) :
    (c.store now ttl e).find? k = c.find? k :=
  find?_store_of_room (Nat.lt_of_le_of_lt (length_others_le c e.key) hroom) hk

/-- Adding an answer leaves the same after a look-up of its key as without it. -/
theorem store_lookup (c : Cache) (earlier : Int) :
    (c.lookup earlier e.key).2.store now ttl e = c.store now ttl e := by
  rw [store, store, others_lookup]
  simp

/-- Adding makes a cache larger by one answer at most. -/
theorem size_store (c : Cache) (now : Int) (ttl : Nat) (e : Entry) :
    (c.store now ttl e).size ≤ c.size + 1 := by
  have hle := length_others_le c e.key
  simp only [store, size, List.length_take, List.length_cons] at hle ⊢
  omega

end adding

end Cache

end Enrichment

end RecordFormula
