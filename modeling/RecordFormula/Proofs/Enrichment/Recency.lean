import Mathlib.Data.List.Dedup
import Mathlib.Data.List.Induction
import Mathlib.Order.MinMax
import RecordFormula.Proofs.Enrichment.Caching

/-!
# Which answers a cache keeps

A cache that is used any number of times holds the answers under the keys that were stored or read
last, as many as it has room for. What it holds under a key is what was stored there last.

* `Cache.Use`, `Cache.after` — the uses of a cache, and the cache after some of them.
* `Cache.lastStored`, `Cache.since` — what was stored under a key last, and the keys that have been
  stored or read since the key was; `Cache.NothingExpires` — no look-up comes upon an answer that no
  longer counts.
* `Cache.recent` — different keys, the latest first. **The keys of a cache are the first of them**
  (`Cache.keys_after`), since every use moves the key that it touches to the front
  (`Cache.keys_store`, `Cache.keys_lookup`).
* **What a cache holds after any uses** (`Cache.after_uses`).
-/

namespace RecordFormula

namespace Enrichment

namespace Cache

/-! ### Uses -/

section uses

/-- A use of a cache. -/
inductive Use where
  /-- An answer is looked up. -/
  | lookup (now : Int) (key : String)
  /-- An answer is added. -/
  | store (now : Int) (ttl : Nat) (e : Entry)

/-- The cache after a use. -/
def Use.after (c : Cache) : Use → Cache
  | .lookup now key => (c.lookup now key).2
  | .store now ttl e => c.store now ttl e

/-- The key that a use stores an answer under or reads an answer of. A look-up without success
touches no key. -/
def Use.touched? (c : Cache) : Use → Option String
  | .lookup now key => (c.lookup now key).1.map fun _ => key
  | .store _ _ e => some e.key

/-- The answer that a use stores under a key, with the moment at which it expires. -/
def Use.stored? (key : String) : Use → Option Entry
  | .lookup _ _ => none
  | .store now ttl e => if e.key = key then some { e with expiresAt := expiry now ttl } else none

/-- The cache after some uses, from the first to the last. -/
def after (c : Cache) (uses : List Use) : Cache := uses.foldl Use.after c

/-- The keys that some uses touch, the latest first. -/
def touched (c : Cache) : List Use → List String
  | [] => []
  | u :: rest => touched (u.after c) rest ++ (u.touched? c).toList

/-- The answer that was stored under a key last. -/
def lastStored (uses : List Use) (key : String) : Option Entry :=
  uses.reverse.findSome? (Use.stored? key)

/-- The keys that have been touched since a key was, the latest first. -/
def since (c : Cache) (uses : List Use) (key : String) : List String :=
  (touched c uses).takeWhile (· != key)

/-- No look-up comes upon an answer that no longer counts. -/
def NothingExpires (c : Cache) (uses : List Use) : Prop :=
  ∀ before now key later, uses = before ++ .lookup now key :: later →
    ∀ e, (c.after before).find? key = some e → e.isExpired now = false

/-- An answer that is stored still counts at a later look-up. -/
def Use.Outlives : Use → Use → Prop
  | .store now ttl _, .lookup later _ => later < expiry now ttl
  | _, _ => True

variable {c : Cache} {uses : List Use} {u : Use} {key : String}

/-- The cache after one more use. -/
@[simp] theorem after_concat (c : Cache) (uses : List Use) (u : Use) :
    c.after (uses ++ [u]) = u.after (c.after uses) := by
  simp [after]

/-- What is touched by one more use. -/
theorem touched_concat (c : Cache) (uses : List Use) (u : Use) :
    touched c (uses ++ [u]) = (u.touched? (c.after uses)).toList ++ touched c uses := by
  induction uses generalizing c with
  | nil => simp [touched, after]
  | cons u' rest ih =>
    rw [List.cons_append, touched, ih, touched, List.append_assoc]
    rfl

/-- What was stored last after one more use. -/
theorem lastStored_concat (uses : List Use) (u : Use) (key : String) :
    lastStored (uses ++ [u]) key = (u.stored? key).or (lastStored uses key) := by
  simp only [lastStored, List.reverse_append, List.reverse_singleton, List.singleton_append,
    List.findSome?_cons]
  cases u.stored? key <;> rfl

/-- If nothing expires, nothing does so before the last use. -/
theorem NothingExpires.of_concat (h : NothingExpires c (uses ++ [u])) : NothingExpires c uses := by
  intro before now key later heq
  refine h before now key (later ++ [u]) ?_
  rw [heq, List.append_assoc, List.cons_append]

/-- If nothing expires, the last look-up finds what is under its key. -/
theorem NothingExpires.fst_lookup {now : Int}
    (h : NothingExpires c (uses ++ [.lookup now key])) :
    ((c.after uses).lookup now key).1 = (c.after uses).find? key := by
  rw [Cache.fst_lookup]
  cases hfind : (c.after uses).find? key with
  | none => rfl
  | some e =>
    have hlive := h uses now key [] rfl e hfind
    simp [Option.filter, hlive]

end uses

/-! ### Different keys -/

section keys

/-- The different keys of a list, in the order in which they come first. -/
def recent : List String → List String
  | [] => []
  | k :: rest => k :: (recent rest).filter (· != k)

variable {k : String} {l l' : List String}

/-- The different keys of a list are its keys. -/
@[simp] theorem mem_recent : k ∈ recent l ↔ k ∈ l := by
  induction l with
  | nil => rfl
  | cons a rest ih =>
    by_cases hk : k = a <;> simp [recent, ih, hk]

/-- They are different. -/
theorem nodup_recent (l : List String) : (recent l).Nodup := by
  induction l with
  | nil => exact List.nodup_nil
  | cons a rest ih =>
    rw [recent, List.nodup_cons]
    exact ⟨by simp, ih.filter _⟩

/-- There are as many as when duplicates are left out in any other way. -/
theorem length_recent (l : List String) : (recent l).length = l.dedup.length := by
  have hperm : (recent l).Perm l.dedup :=
    (List.perm_ext_iff_of_nodup (nodup_recent l) l.nodup_dedup).mpr (by simp)
  exact hperm.length_eq

/-- A key comes after those that stand before it in the list, each counted once. -/
theorem recent_append_cons (h : k ∉ l) (l' : List String) :
    ∃ rest, k ∉ rest ∧ recent (l ++ k :: l') = recent l ++ k :: rest := by
  induction l with
  | nil => exact ⟨(recent l').filter (· != k), by simp, rfl⟩
  | cons a l ih =>
    rw [List.mem_cons, not_or] at h
    obtain ⟨rest, hrest, heq⟩ := ih h.2
    refine ⟨rest.filter (· != a), fun hk => hrest (List.mem_filter.mp hk).1, ?_⟩
    rw [List.cons_append, recent, heq, recent]
    simp [h.1]

/-- A key is one of the first different keys of a list exactly if there are fewer different keys
before its first occurrence. -/
theorem mem_take_recent {n : Nat} :
    k ∈ (recent l).take n ↔ k ∈ l ∧ (l.takeWhile (· != k)).dedup.length < n := by
  by_cases hk : k ∈ l
  · obtain ⟨before, later, rfl, hbefore⟩ := List.eq_append_cons_of_mem hk
    have hwhile : (before ++ k :: later).takeWhile (· != k) = before := by
      rw [List.takeWhile_append_of_pos]
      · simp
      · intro a ha
        simpa using fun heq : a = k => hbefore (heq ▸ ha)
    obtain ⟨rest, -, heq⟩ := recent_append_cons hbefore later
    rw [hwhile, heq, ← length_recent, and_iff_right hk, List.take_append, List.mem_append]
    have hnot : k ∉ (recent before).take n := by
      intro h
      exact hbefore (mem_recent.mp (List.mem_of_mem_take h))
    rw [or_iff_right hnot]
    cases hn : n - (recent before).length with
    | zero => simpa using Nat.sub_eq_zero_iff_le.mp hn
    | succ m =>
      rw [List.take_succ_cons]
      exact iff_of_true (by simp) (by omega)
  · refine iff_of_false (fun h => ?_) (fun h => hk h.1)
    exact hk (mem_recent.mp (List.mem_of_mem_take h))

/-- Of different keys, leaving one out after taking some leaves the same first ones as leaving it
out before. -/
theorem take_filter_take {n : Nat} (h : l.Nodup) :
    ((l.take (n + 1)).filter (· != k)).take n = (l.filter (· != k)).take n := by
  induction l generalizing n with
  | nil => simp
  | cons a rest ih =>
    obtain ⟨ha, hrest⟩ := List.nodup_cons.mp h
    by_cases hk : a = k
    · -- the key is left out here, and no other one is
      subst hk
      have hall : ∀ m, (rest.take m).filter (· != a) = rest.take m := by
        intro m
        rw [List.filter_eq_self]
        intro b hb
        simpa using fun heq : b = a => ha (heq ▸ List.mem_of_mem_take hb)
      have hrest' := hall rest.length
      rw [List.take_length] at hrest'
      simp [hall, hrest', List.take_take]
    · cases n with
      | zero => simp
      | succ n => simpa [hk] using ih hrest

end keys

/-! ### The keys of a cache -/

section recency

variable {c : Cache} {now : Int} {ttl : Nat} {key : String} {e : Entry} {uses : List Use}

/-- The keys of a cache, the most recently used first. -/
def keys (c : Cache) : List String := c.entries.map Entry.key

/-- What is found is under one of the keys. -/
theorem isSome_find? : (c.find? key).isSome ↔ key ∈ c.keys := by
  simp [find?, keys, List.find?_isSome]

/-- The keys of the answers under other keys. -/
theorem map_key_others (c : Cache) (key : String) :
    (c.others key).map Entry.key = c.keys.filter (· != key) := by
  simp only [others, keys, List.filter_map]
  rfl

/-- Adding an answer moves its key to the front. -/
theorem keys_store (c : Cache) (now : Int) (ttl : Nat) (e : Entry) :
    (c.store now ttl e).keys = (e.key :: c.keys.filter (· != e.key)).take c.capacity := by
  rw [← map_key_others, keys, store, List.map_take]
  rfl

/-- Finding an answer moves its key to the front. -/
theorem keys_lookup (h : (c.lookup now key).1 = some e) :
    (c.lookup now key).2.keys = key :: c.keys.filter (· != key) := by
  obtain ⟨hfind, hlive⟩ := of_lookup_eq_some h
  have hkey := (of_find?_eq_some hfind).2
  rw [← map_key_others, keys]
  simp [lookup, hfind, hlive, hkey]

/-- A look-up that finds nothing leaves out an answer at most. -/
theorem sublist_lookup (h : (c.lookup now key).1 = none) :
    (c.lookup now key).2.entries.Sublist c.entries := by
  cases hfind : c.find? key with
  | none => simp [lookup, hfind]
  | some e =>
    have hexp : e.isExpired now = true := by
      by_contra hlive
      rw [lookup_eq_some hfind (by simpa using hlive)] at h
      cases h
    have hcache : (c.lookup now key).2.entries = c.others key := by
      simp [lookup, hfind, hexp]
    rw [hcache]
    exact List.filter_sublist

/-- A use does not change the room. -/
@[simp] theorem capacity_useAfter (c : Cache) (u : Use) : (u.after c).capacity = c.capacity := by
  cases u with
  | lookup now key => exact capacity_lookup c now key
  | store now ttl e => rfl

/-- Uses do not change the room. -/
@[simp] theorem capacity_after (c : Cache) (uses : List Use) :
    (c.after uses).capacity = c.capacity := by
  induction uses using List.reverseRecOn with
  | nil => rfl
  | append_singleton uses u ih => rw [after_concat, capacity_useAfter, ih]

/-- There are no more answers than there is room for, and no two are under the same key. -/
structure Bounded (c : Cache) : Prop where
  /-- There is room for all answers. -/
  size_le : c.size ≤ c.capacity
  /-- The keys are different. -/
  nodup_keys : c.keys.Nodup

/-- A use leaves no more answers than there is room for. -/
theorem Bounded.useAfter (h : c.Bounded) (u : Use) : Bounded (u.after c) := by
  have hcons (key : String) : (key :: c.keys.filter (· != key)).Nodup :=
    List.nodup_cons.mpr ⟨by simp, h.nodup_keys.filter _⟩
  constructor
  · rw [capacity_useAfter]
    cases u with
    | lookup now key => exact Nat.le_trans (size_lookup c now key) h.size_le
    | store now ttl e => exact List.length_take_le ..
  · cases u with
    | lookup now key =>
      rw [Use.after]
      cases hfound : (c.lookup now key).1 with
      | some e =>
        rw [keys_lookup hfound]
        exact hcons key
      | none => exact h.nodup_keys.sublist ((sublist_lookup hfound).map Entry.key)
    | store now ttl e =>
      rw [Use.after, keys_store]
      exact (hcons e.key).sublist (List.take_sublist ..)

/-- **Any number of uses** leave no more answers than there is room for. -/
theorem bounded_after (capacity : Nat) (uses : List Use) :
    Bounded ((empty capacity).after uses) := by
  induction uses using List.reverseRecOn with
  | nil => exact ⟨Nat.zero_le _, List.nodup_nil⟩
  | append_singleton uses u ih =>
    rw [after_concat]
    exact ih.useAfter u

/-- What a cache holds is what was stored last under its key. -/
theorem lastStored_of_mem (capacity : Nat) (uses : List Use) :
    ∀ e ∈ ((empty capacity).after uses).entries, lastStored uses e.key = some e := by
  induction uses using List.reverseRecOn with
  | nil =>
    intro e he
    cases he
  | append_singleton uses u ih =>
    intro e he
    rw [after_concat] at he
    rw [lastStored_concat]
    cases u with
    | lookup now key =>
      rw [Use.stored?, Option.none_or]
      exact ih e (mem_of_lookup he)
    | store now ttl e' =>
      rcases of_mem_store he with rfl | ⟨hold, hkey⟩
      · simp [Use.stored?]
      · rw [Use.stored?, if_neg (Ne.symm hkey), Option.none_or]
        exact ih e hold

/-- If every answer is stored for longer than it is looked up, nothing expires. -/
theorem nothingExpires_of_outlives {capacity : Nat} (h : uses.Pairwise Use.Outlives) :
    NothingExpires (empty capacity) uses := by
  rintro before now key later rfl e hfind
  obtain ⟨hmem, hkey⟩ := of_find?_eq_some hfind
  have hlast := lastStored_of_mem capacity before e hmem
  obtain ⟨u, hu, hstored⟩ := List.exists_of_findSome?_eq_some hlast
  have houtlives : u.Outlives (.lookup now key) :=
    (List.pairwise_append.mp h).2.2 u (by simpa using hu) _ (by simp)
  cases u with
  | lookup now' key' => cases hstored
  | store now' ttl e' =>
    rw [Use.stored?] at hstored
    split_ifs at hstored
    obtain rfl := Option.some.inj hstored
    simpa [Entry.isExpired, Use.Outlives] using houtlives

/-- What was stored has been touched. -/
theorem mem_touched_of_lastStored (c : Cache) (h : lastStored uses key = some e) :
    key ∈ touched c uses := by
  induction uses using List.reverseRecOn with
  | nil => cases h
  | append_singleton uses u ih =>
    rw [lastStored_concat] at h
    rw [touched_concat, List.mem_append]
    cases hstored : u.stored? key with
    | none =>
      rw [hstored, Option.none_or] at h
      exact .inr (ih h)
    | some e' =>
      cases u with
      | lookup now key' => cases hstored
      | store now ttl e'' =>
        rw [Use.stored?] at hstored
        split_ifs at hstored with hkey
        exact .inl (by simp [Use.touched?, hkey])

/-- **The keys of a cache are those that were touched last**, as many as there is room for, if
nothing expires. -/
theorem keys_after (capacity : Nat) (h : NothingExpires (empty capacity) uses) :
    ((empty capacity).after uses).keys =
      (recent (touched (empty capacity) uses)).take (max capacity 1) := by
  obtain ⟨n, hn⟩ : ∃ n, max capacity 1 = n + 1 := ⟨max capacity 1 - 1, by omega⟩
  have hroom (uses : List Use) : ((empty capacity).after uses).capacity = n + 1 := by
    rw [capacity_after, ← hn]
    rfl
  rw [hn]
  induction uses using List.reverseRecOn with
  | nil => rfl
  | append_singleton uses u ih =>
    have hkeys := ih h.of_concat
    -- the key that is touched comes to the front of both lists
    have hfront (key : String) :
        (key :: ((empty capacity).after uses).keys.filter (· != key)).take (n + 1) =
          (recent (key :: touched (empty capacity) uses)).take (n + 1) := by
      rw [recent, List.take_succ_cons, List.take_succ_cons, hkeys,
        take_filter_take (nodup_recent _)]
    have hlength : ((empty capacity).after (uses ++ [u])).keys.length ≤ n + 1 := by
      rw [← hroom (uses ++ [u]), keys, List.length_map]
      exact (bounded_after capacity (uses ++ [u])).size_le
    rw [after_concat] at hlength ⊢
    rw [touched_concat]
    cases u with
    | store now ttl e =>
      rw [Use.after, keys_store, hroom]
      exact hfront e.key
    | lookup now key =>
      rw [Use.after] at hlength ⊢
      cases hfound : (((empty capacity).after uses).lookup now key).1 with
      | none =>
        have hfind := h.fst_lookup
        rw [hfound] at hfind
        simpa [Use.touched?, hfound, lookup, ← hfind] using hkeys
      | some e =>
        rw [keys_lookup hfound] at hlength ⊢
        rw [← List.take_of_length_le hlength, hfront key]
        simp [Use.touched?, hfound]

/-- **What a cache holds after any uses.** There are never more answers than there is room for, and
no two under the same key. A look-up finds nothing but what was stored last under its key, before
the moment at which this expires. If nothing expires, it finds this exactly if the keys that have
been touched since, each counted once, are fewer than there is room for. The moments of the uses may
be in any order. -/
theorem after_uses (capacity : Nat) (uses : List Use) :
    let c := (empty capacity).after uses
    (c.size ≤ max capacity 1 ∧ (c.entries.map Entry.key).Nodup) ∧
    (∀ now key e, (c.lookup now key).1 = some e →
      lastStored uses key = some e ∧ now < e.expiresAt) ∧
    ∀ now key, NothingExpires (empty capacity) (uses ++ [.lookup now key]) →
      ∀ e, (c.lookup now key).1 = some e ↔
        lastStored uses key = some e ∧
          (since (empty capacity) uses key).dedup.length < max capacity 1 := by
  intro c
  have hbounded : Bounded c := bounded_after capacity uses
  have hroom : c.capacity = max capacity 1 := capacity_after (empty capacity) uses
  have hstored : ∀ key e, c.find? key = some e → lastStored uses key = some e := by
    intro key e hfind
    obtain ⟨hmem, rfl⟩ := of_find?_eq_some hfind
    exact lastStored_of_mem capacity uses e hmem
  refine ⟨⟨hroom ▸ hbounded.size_le, hbounded.nodup_keys⟩, ?_, ?_⟩
  · intro now key e hfound
    obtain ⟨hfind, hlive⟩ := of_lookup_eq_some hfound
    refine ⟨hstored key e hfind, ?_⟩
    simpa [Entry.isExpired] using hlive
  · intro now key hexpires e
    rw [hexpires.fst_lookup]
    have hkeys := keys_after capacity hexpires.of_concat
    constructor
    · intro hfind
      have hkey : key ∈ c.keys := isSome_find?.mp (by rw [hfind]; rfl)
      rw [hkeys, mem_take_recent] at hkey
      exact ⟨hstored key e hfind, hkey.2⟩
    · rintro ⟨hlast, hfew⟩
      have hkey : key ∈ c.keys := by
        rw [hkeys, mem_take_recent]
        exact ⟨mem_touched_of_lastStored _ hlast, hfew⟩
      obtain ⟨e', hfind⟩ := Option.isSome_iff_exists.mp (isSome_find?.mpr hkey)
      rw [hfind, ← hlast, hstored key e' hfind]

/-- Three answers in a cache for two: what has been read in between stays, the other one goes. -/
theorem after_uses_eviction :
    let entry := fun key => (⟨key, .companyInfo, .null, .null, 0⟩ : Entry)
    let uses : List Use :=
      [.store 0 60 (entry "a"), .store 1 60 (entry "b"), .lookup 2 "a", .store 3 60 (entry "c")]
    let c := (empty 2).after uses
    (∀ key, NothingExpires (empty 2) (uses ++ [.lookup 4 key])) ∧
      (c.lookup 4 "a").1 = some { entry "a" with expiresAt := 60 } ∧ (c.lookup 4 "b").1 = none := by
  intro entry uses c
  have hexpires : ∀ key, NothingExpires (empty 2) (uses ++ [.lookup 4 key]) := by
    intro key
    apply nothingExpires_of_outlives
    simp [uses, Use.Outlives, expiry, latestMoment]
  obtain ⟨-, -, hfound⟩ := after_uses 2 uses
  refine ⟨hexpires, ?_, ?_⟩
  · exact (hfound 4 "a" (hexpires "a") _).mpr ⟨rfl, by decide⟩
  · rw [Option.eq_none_iff_forall_not_mem]
    intro e he
    have hfew := ((hfound 4 "b" (hexpires "b") e).mp he).2
    revert hfew
    decide

end recency

end Cache

end Enrichment

end RecordFormula
