import Mathlib.Logic.Relation
import RecordFormula.Pattern.Search
import RecordFormula.Proofs.CharSet.Members

/-!
# What a node matches

A node is a relation between places in a text: it leads from the place before a match to the place
behind it, and keeps some places on the way.

* `Pattern.Spot` — a place and what is kept there.
* `Pattern.Node.Matches` — a node leads from one spot to another.
* `Pattern.Over` — how far spots are apart; **what sets and texts match are the characters between
  two spots** (`Pattern.matches_repeated_set_iff`, `Pattern.matches_text_iff`).
-/

namespace RecordFormula

namespace Pattern

/-! ### Matches -/

/-- A place in a text and the places that are kept there, the latest first. -/
structure Spot where
  /-- The place in the text. -/
  place : Nat
  /-- The places that are kept. -/
  kept : List (Nat × Nat)

/-- The state of a program at an address. -/
def Spot.thread (a : Spot) (address : Nat) : Thread := ⟨address, a.place, a.kept⟩

/-- The spot behind so many more characters. -/
def Spot.forward (a : Spot) (n : Nat) : Spot := ⟨a.place + n, a.kept⟩

/-- The spot where its place is kept under a number. -/
def Spot.keep (a : Spot) (slot : Nat) : Spot := ⟨a.place, (slot, a.place) :: a.kept⟩

@[simp] theorem Spot.forward_zero (a : Spot) : a.forward 0 = a := rfl

@[simp] theorem Spot.forward_forward (a : Spot) (m n : Nat) :
    (a.forward m).forward n = a.forward (m + n) := by
  simp [Spot.forward, Nat.add_assoc]

/-- A relation so many times, one after the other. -/
def times (r : Spot → Spot → Prop) : Nat → Spot → Spot → Prop
  | 0 => Eq
  | n + 1 => Relation.Comp r (times r n)

/-- A node leads from one spot to another. A repetition whose bound is below its least number is made
so many times as the least number says. -/
def Node.Matches (text : Array Char) : Node → Spot → Spot → Prop
  | .empty => Eq
  | .text cs => fun a b => standsAt text a.place cs ∧ b = a.forward cs.length
  | .set s => fun a b => (∃ c, text[a.place]? = some c ∧ s.contains c) ∧ b = a.forward 1
  | .anchor p => fun a b => p.holds (Pattern.before text a.place) text[a.place]? ∧ b = a
  | .capture index content => fun a b =>
    ∃ c, content.Matches text (a.keep (2 * index)) c ∧ b = c.keep (2 * index + 1)
  | .sequence first rest => Relation.Comp (first.Matches text) (rest.Matches text)
  | .choice first rest => fun a b => first.Matches text a b ∨ rest.Matches text a b
  | .repeated least most _ item => fun a b =>
    ∃ n, least ≤ n ∧ (∀ m ∈ most, n ≤ max least m) ∧ times (item.Matches text) n a b

/-- So many times and so many times more. -/
theorem times_add {r : Spot → Spot → Prop} {m n : Nat} {a b : Spot} :
    times r (m + n) a b ↔ ∃ c, times r m a c ∧ times r n c b := by
  induction m generalizing a with
  | zero => simp [times]
  | succ m ih =>
    rw [Nat.succ_add, times]
    constructor
    · rintro ⟨x, hx, hrest⟩
      obtain ⟨c, hc, hcb⟩ := ih.mp hrest
      exact ⟨c, ⟨x, hx, hc⟩, hcb⟩
    · rintro ⟨c, ⟨x, hx, hc⟩, hcb⟩
      exact ⟨x, hx, ih.mpr ⟨c, hc, hcb⟩⟩

/-! ### Matched characters -/

section characters

variable {text : Array Char} {a b : Spot} {cs ds : List Char} {s : CharSet} {least : Nat} {greedy : Bool}

/-- One spot lies so many characters behind another. -/
def Over (text : Array Char) (a : Spot) (cs : List Char) (b : Spot) : Prop :=
  text.toList.drop a.place = cs ++ text.toList.drop b.place ∧ b = a.forward cs.length

/-- No characters lie between a spot and itself. -/
theorem over_nil : Over text a [] b ↔ a = b := by
  constructor
  · rintro ⟨-, rfl⟩
    rfl
  · rintro rfl
    exact ⟨rfl, rfl⟩

/-- How far spots are apart has nothing to do with what is kept. -/
theorem Over.of_place (h : Over text a cs b) (x : Spot) (hplace : x.place = a.place) :
    Over text x cs (x.forward cs.length) := by
  obtain ⟨h, rfl⟩ := h
  refine ⟨?_, rfl⟩
  simpa only [Spot.forward, hplace] using h

/-- A character lies between a spot and the next one. -/
theorem over_singleton {c : Char} :
    Over text a [c] b ↔ text[a.place]? = some c ∧ b = a.forward 1 := by
  refine and_congr_left fun hb => ?_
  have hplace : b.place = a.place + 1 := congrArg Spot.place hb
  rw [hplace, List.singleton_append, ← Array.getElem?_toList]
  constructor
  · intro h
    rw [← List.head?_drop, h, List.head?_cons]
  · intro h
    obtain ⟨hlt, hc⟩ := List.getElem?_eq_some_iff.mp h
    rw [List.drop_eq_getElem_cons hlt, hc]

/-- Characters lie one after the other. -/
theorem over_append : Over text a (cs ++ ds) b ↔ ∃ c, Over text a cs c ∧ Over text c ds b := by
  constructor
  · rintro ⟨h, rfl⟩
    rw [List.append_assoc] at h
    have hrest : text.toList.drop (a.place + cs.length) =
        ds ++ text.toList.drop (a.forward (cs ++ ds).length).place := by
      rw [← List.drop_drop, h, List.drop_left]
    refine ⟨a.forward cs.length, ⟨?_, rfl⟩, hrest, ?_⟩
    · rw [h]
      exact congrArg (cs ++ ·) hrest.symm
    · rw [Spot.forward_forward, List.length_append]
  · rintro ⟨c, ⟨h, rfl⟩, h', rfl⟩
    refine ⟨?_, ?_⟩
    · rw [h, h', List.append_assoc]
    · rw [Spot.forward_forward, List.length_append]

/-- A character of a set. -/
theorem matches_set_iff :
    (Node.set s).Matches text a b ↔ ∃ c, s.contains c ∧ Over text a [c] b := by
  simp only [Node.Matches, over_singleton]
  constructor
  · rintro ⟨⟨c, hc, hs⟩, hb⟩
    exact ⟨c, hs, hc, hb⟩
  · rintro ⟨c, hs, hc, hb⟩
    exact ⟨⟨c, hc, hs⟩, hb⟩

/-- So many characters of a set. -/
theorem times_set_iff {n : Nat} : times ((Node.set s).Matches text) n a b ↔
    ∃ cs, cs.length = n ∧ (∀ c ∈ cs, s.contains c) ∧ Over text a cs b := by
  induction n generalizing a with
  | zero =>
    constructor
    · rintro rfl
      exact ⟨[], rfl, by simp, over_nil.mpr rfl⟩
    · rintro ⟨cs, hcs, -, hover⟩
      obtain rfl := List.length_eq_zero_iff.mp hcs
      exact over_nil.mp hover
  | succ n ih =>
    constructor
    · rintro ⟨x, hx, hrest⟩
      obtain ⟨c, hc, hover⟩ := matches_set_iff.mp hx
      obtain ⟨cs, hlength, hcs, hover'⟩ := ih.mp hrest
      refine ⟨c :: cs, by rw [List.length_cons, hlength], ?_, over_append.mpr ⟨x, hover, hover'⟩⟩
      exact List.forall_mem_cons.mpr ⟨hc, hcs⟩
    · rintro ⟨cs, hlength, hcs, hover⟩
      cases cs with
      | nil => simp at hlength
      | cons c cs =>
        obtain ⟨hc, hcs⟩ := List.forall_mem_cons.mp hcs
        rw [← List.singleton_append] at hover
        obtain ⟨x, hover, hover'⟩ := over_append.mp hover
        exact ⟨x, matches_set_iff.mpr ⟨c, hc, hover⟩, ih.mpr ⟨cs, by simpa using hlength, hcs, hover'⟩⟩

/-- Any number of characters of a set, from the least one on. -/
theorem matches_repeated_set_iff :
    (Node.repeated least none greedy (.set s)).Matches text a b ↔
      ∃ cs, least ≤ cs.length ∧ (∀ c ∈ cs, s.contains c) ∧ Over text a cs b := by
  rw [Node.Matches]
  constructor
  · rintro ⟨n, hn, -, h⟩
    obtain ⟨cs, rfl, hcs, hover⟩ := times_set_iff.mp h
    exact ⟨cs, hn, hcs, hover⟩
  · rintro ⟨cs, hn, hcs, hover⟩
    exact ⟨cs.length, hn, by simp, times_set_iff.mpr ⟨cs, rfl, hcs, hover⟩⟩

/-- The first character of a text is matched like that of a set with no other members. -/
theorem matches_text_cons {c : Char} :
    (Node.text (c :: cs)).Matches text a b ↔
      Relation.Comp ((Node.set (.singleton c)).Matches text) ((Node.text cs).Matches text) a b := by
  simp only [Node.Matches, Relation.Comp, standsAt, Bool.and_eq_true, beq_iff_eq,
    CharSet.contains_singleton, List.length_cons]
  constructor
  · rintro ⟨⟨hc, hrest⟩, rfl⟩
    exact ⟨a.forward 1, ⟨⟨c, hc, rfl⟩, rfl⟩, hrest, by simp [Nat.add_comm]⟩
  · rintro ⟨_, ⟨⟨_, hc, rfl⟩, rfl⟩, hrest, rfl⟩
    exact ⟨⟨hc, hrest⟩, by simp [Nat.add_comm]⟩

/-- The characters of a text. -/
theorem matches_text_iff : (Node.text cs).Matches text a b ↔ Over text a cs b := by
  induction cs generalizing a with
  | nil => simp [over_nil, Node.Matches, standsAt, eq_comm]
  | cons c rest ih =>
    rw [matches_text_cons, ← List.singleton_append, over_append]
    refine exists_congr fun x => and_congr ?_ ih
    simp [matches_set_iff, CharSet.contains_singleton]

end characters

end Pattern

end RecordFormula
