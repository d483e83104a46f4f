import RecordFormula.Function.Aggregates
import RecordFormula.Proofs.Number.Rank
import RecordFormula.Proofs.Value.Leaves

/-!
# The least and the greatest number

The least and the greatest of some values are found by going through the numbers among their leaves
from the first to the last, and what is not a number gives way to what is one. Where it stands in
the list therefore does not matter, nor does the order of the others.

* `IsFirst` — a number is the first of some numbers by a key, the others left aside.
* `Prefers` — an operation chooses the first of two numbers; **carried through a list it finds the
  first of all** (`Prefers.isFirst_foldl`).
* `IsExtreme` — a value is the extreme of the numbers among the leaves; there is only one, up to the
  sign of zero (`IsExtreme.agree`).
* **The least and the greatest number are extremes of the leaves, in whatever order and arrays these
  are given** (`least_and_greatest`).
-/

namespace RecordFormula

namespace Aggregates

open Number (Agree isNaN rank)

/-! ### The first of some numbers -/

section first

variable {α : Type} [LinearOrder α] {key : Float → α} {s : Set Float} {x y z : Float}

/-- The number is one of a set and comes first by the key among those that are numbers; it is not a
number itself only if none of them is. -/
structure IsFirst (key : Float → α) (s : Set Float) (x : Float) : Prop where
  /-- It is one of them. -/
  mem : x ∈ s
  /-- It is a number if one of them is. -/
  isNaN_of : isNaN x = true → ∀ y ∈ s, isNaN y = true
  /-- None of them comes before it. -/
  le : isNaN x = false → ∀ y ∈ s, isNaN y = false → key x ≤ key y

/-- The first of some numbers against one more. -/
theorem IsFirst.insert (h : IsFirst key s x) (hz : IsFirst key {x, y} z) :
    IsFirst key (insert y s) z := by
  have hx : x ∈ ({x, y} : Set Float) := Set.mem_insert x {y}
  have hy : y ∈ ({x, y} : Set Float) := Set.mem_insert_of_mem x rfl
  refine ⟨?_, ?_, ?_⟩
  · rcases hz.mem with rfl | rfl
    · exact Set.mem_insert_of_mem y h.mem
    · exact Set.mem_insert z s
  · intro hnan
    rintro w (rfl | hw)
    · exact hz.isNaN_of hnan w hy
    · exact h.isNaN_of (hz.isNaN_of hnan x hx) w hw
  · intro hnum
    rintro w (rfl | hw) hwnum
    · exact hz.le hnum w hy hwnum
    · -- something among the earlier ones is a number, so the first of them is
      have hxnum : isNaN x = false := by
        by_contra hx'
        have hall := h.isNaN_of (by simpa using hx') w hw
        rw [hwnum] at hall
        cases hall
      exact (hz.le hnum x hx hxnum).trans (h.le hxnum w hw hwnum)

/-- The operation chooses the first of two numbers by the key, the left one of two in the same
place, and whichever is a number if only one is. -/
structure Prefers (key : Float → α) (f : Float → Float → Float) : Prop where
  /-- What is not a number gives way. -/
  left : ∀ {x y}, isNaN x = true → f x y = y
  /-- It is not chosen either. -/
  right : ∀ {x y}, isNaN x = false → isNaN y = true → f x y = x
  /-- Of two numbers the first one is chosen. -/
  both : ∀ {x y}, isNaN x = false → isNaN y = false → f x y = if key y < key x then y else x

variable {f : Float → Float → Float}

/-- What is chosen is the first of the two. -/
theorem Prefers.isFirst (h : Prefers key f) (x y : Float) : IsFirst key {x, y} (f x y) := by
  cases hx : isNaN x with
  | true =>
    rw [h.left hx]
    refine ⟨.inr rfl, ?_, ?_⟩
    · rintro hy w (rfl | rfl)
      · exact hx
      · exact hy
    · rintro - w (rfl | rfl) hw
      · rw [hx] at hw
        cases hw
      · exact le_rfl
  | false =>
    have hself : isNaN x = true → ∀ w ∈ ({x, y} : Set Float), isNaN w = true := by
      intro hx'
      rw [hx] at hx'
      cases hx'
    cases hy : isNaN y with
    | true =>
      rw [h.right hx hy]
      refine ⟨.inl rfl, hself, ?_⟩
      rintro - w (rfl | rfl) hw
      · exact le_rfl
      · rw [hy] at hw
        cases hw
    | false =>
      rw [h.both hx hy]
      split_ifs with hlt
      · refine ⟨.inr rfl, ?_, ?_⟩
        · intro hy'
          rw [hy] at hy'
          cases hy'
        · rintro - w (rfl | rfl) -
          · exact hlt.le
          · exact le_rfl
      · refine ⟨.inl rfl, hself, ?_⟩
        rintro - w (rfl | rfl) -
        · exact le_rfl
        · exact not_lt.mp hlt

/-- **Carried through a list, it finds the first of all.** -/
theorem Prefers.isFirst_foldl (h : Prefers key f) (xs : List Float) (hx : IsFirst key s x) :
    IsFirst key (s ∪ {y | y ∈ xs}) (xs.foldl f x) := by
  induction xs generalizing s x with
  | nil => simpa using hx
  | cons y rest ih =>
    have hstep := ih (hx.insert (h.isFirst x y))
    have hset : insert y s ∪ {z | z ∈ rest} = s ∪ {z | z ∈ y :: rest} := by
      ext z
      simp only [Set.mem_union, Set.mem_insert_iff, Set.mem_ofPred_eq, List.mem_cons]
      tauto
    rw [← hset]
    exact hstep

/-- A list with elements is combined to the first of them, an empty one to nothing. -/
theorem Prefers.isFirst_combine (h : Prefers key f) (xs : List Float) :
    (xs = [] ∧ combine f xs = .null) ∨
      ∃ x, combine f xs = .number x ∧ IsFirst key {y | y ∈ xs} x := by
  cases xs with
  | nil => exact .inl ⟨rfl, rfl⟩
  | cons x rest =>
    right
    have hsingle : IsFirst key {x} x := by
      refine ⟨rfl, ?_, ?_⟩
      · rintro hx w rfl
        exact hx
      · rintro - w rfl -
        exact le_rfl
    have hset : {x} ∪ {y | y ∈ rest} = {y | y ∈ x :: rest} := by
      ext y
      simp
    exact ⟨_, rfl, hset ▸ h.isFirst_foldl rest hsingle⟩

/-- The smaller of two numbers comes first in their row. -/
theorem prefers_smaller : Prefers rank smaller := by
  refine ⟨?_, ?_, ?_⟩
  · intro x y hx
    exact if_pos hx
  · intro x y hx hy
    have hlt : ¬ y < x := by
      rw [Number.lt_iff_order?, Number.order?_eq_none_iff.mpr (.inl hy)]
      simp
    rw [smaller, if_neg (by simp [hx]), if_neg hlt]
  · intro x y hx hy
    rw [smaller, if_neg (by simp [hx])]
    simp only [Number.lt_iff_rank_lt hy hx]

/-- The larger of two numbers comes first in the row that is turned round. -/
theorem prefers_larger : Prefers (OrderDual.toDual ∘ rank) larger := by
  refine ⟨?_, ?_, ?_⟩
  · intro x y hx
    exact if_pos hx
  · intro x y hx hy
    have hlt : ¬ x < y := by
      rw [Number.lt_iff_order?, Number.order?_eq_none_iff.mpr (.inr hy)]
      simp
    rw [larger, if_neg (by simp [hx]), if_neg hlt]
  · intro x y hx hy
    rw [larger, if_neg (by simp [hx])]
    simp only [Number.lt_iff_rank_lt hx hy, Function.comp_apply, OrderDual.toDual_lt_toDual]

end first

/-! ### Extremes -/

section extremes

variable {before : Float → Float → Prop} {args others : List Value} {u v : Value}

/-- The value is an extreme of the numbers among the leaves: null if there are none, and otherwise
one of them that is not a number only if none is, and before which no other number comes. -/
structure IsExtreme (before : Float → Float → Prop) (args : List Value) (v : Value) : Prop where
  /-- It is null if there are no numbers. -/
  null_iff : v = .null ↔ ∀ x, ¬ Value.IsLeaf (.number x) args
  /-- It is a number that is a leaf otherwise. -/
  number : v ≠ .null → ∃ x, v = .number x ∧ Value.IsLeaf (.number x) args ∧
    (isNaN x = true ↔ ∀ y, Value.IsLeaf (.number y) args → isNaN y = true) ∧
    (isNaN x = false → ∀ y, Value.IsLeaf (.number y) args → isNaN y = false → before x y)

/-- Both values are null, or both are numbers that agree: equal up to the sign of zero, or neither of
them a number. -/
inductive AgreeAsNumbers : Value → Value → Prop where
  /-- Nothing. -/
  | null : AgreeAsNumbers .null .null
  /-- Numbers that agree. -/
  | number {x y : Float} (h : Agree x y) : AgreeAsNumbers (.number x) (.number y)

/-- The numbers among the values are leaves. -/
theorem mem_numbers_iff {x : Float} : x ∈ numbers args ↔ Value.IsLeaf (.number x) args := by
  have hnumber : ∀ v : Value, v.asNumber? = some x ↔ v = .number x := by
    intro v
    cases v <;> simp [Value.asNumber?]
  unfold numbers
  simp only [List.mem_filterMap, hnumber, exists_eq_right, Value.mem_flatten_iff]

/-- What prefers the first number by a key finds the extreme of the leaves. -/
theorem Prefers.isExtreme {α : Type} [LinearOrder α] {key : Float → α} {f : Float → Float → Float}
    (h : Prefers key f)
    (hkey : ∀ {x y}, isNaN x = false → isNaN y = false → (before x y ↔ key x ≤ key y))
    (args : List Value) : IsExtreme before args (combine f (numbers args)) := by
  rcases h.isFirst_combine (numbers args) with ⟨hnil, hnull⟩ | ⟨x, hx, hfirst⟩
  · have hnone : ∀ x, ¬ Value.IsLeaf (.number x) args := by
      intro x
      rw [← mem_numbers_iff, hnil]
      exact List.not_mem_nil
    exact ⟨⟨fun _ => hnone, fun _ => hnull⟩, fun hne => absurd hnull hne⟩
  · have hleaf : Value.IsLeaf (.number x) args := mem_numbers_iff.mp hfirst.mem
    refine ⟨?_, ?_⟩
    · rw [hx]
      exact ⟨nofun, fun hnone => absurd hleaf (hnone x)⟩
    · intro _
      refine ⟨x, hx, hleaf, ⟨?_, ?_⟩, ?_⟩
      · intro hnan y hy
        exact hfirst.isNaN_of hnan y (mem_numbers_iff.mpr hy)
      · intro hall
        exact hall x hleaf
      · intro hnum y hy hynum
        exact (hkey hnum hynum).mpr (hfirst.le hnum y (mem_numbers_iff.mpr hy) hynum)

/-- **There is only one extreme** of the same leaves, up to the sign of zero. -/
theorem IsExtreme.agree (hu : IsExtreme before args u) (hv : IsExtreme before others v)
    (hanti : ∀ {x y}, isNaN x = false → isNaN y = false → before x y → before y x → Agree x y)
    (hleaves : ∀ w, Value.IsLeaf w args ↔ Value.IsLeaf w others) : AgreeAsNumbers u v := by
  by_cases hnull : u = .null
  · have hnone : v = .null := by
      rw [hv.null_iff]
      intro x hx
      exact hu.null_iff.mp hnull x ((hleaves _).mpr hx)
    rw [hnull, hnone]
    exact .null
  · have hsome : v ≠ .null := by
      intro hv'
      refine hnull (hu.null_iff.mpr ?_)
      intro x hx
      exact hv.null_iff.mp hv' x ((hleaves _).mp hx)
    obtain ⟨x, rfl, hxleaf, hxnan, hxbefore⟩ := hu.number hnull
    obtain ⟨y, rfl, hyleaf, hynan, hybefore⟩ := hv.number hsome
    simp only [← hleaves] at hyleaf hynan hybefore
    refine .number ?_
    cases hx : isNaN x with
    | true => exact .inr ⟨hx, hynan.mpr (hxnan.mp hx)⟩
    | false =>
      have hy : isNaN y = false := by
        by_contra hy'
        rw [hxnan.mpr (hynan.mp (by simpa using hy'))] at hx
        cases hx
      exact hanti hx hy (hxbefore hx y hyleaf hy) (hybefore hy x hxleaf hx)

/-- **The least and the greatest number are those of the leaves.** The least of some values is null
if no leaf is a number; otherwise it is a number that is a leaf, not-a-number only if all numbers
among the leaves are, and at most every one that is not. So it is with the greatest, the other way
round. If the values are given in another order or in other arrays, both stay the same, up to the
sign of zero. -/
theorem least_and_greatest (args : List Value) :
    IsExtreme (· ≤ ·) args (least args) ∧ IsExtreme (· ≥ ·) args (greatest args) ∧
      ∀ others, Value.Rearranged args others →
        AgreeAsNumbers (least args) (least others) ∧
          AgreeAsNumbers (greatest args) (greatest others) := by
  have hleast : ∀ args, IsExtreme (· ≤ ·) args (least args) :=
    prefers_smaller.isExtreme Number.le_iff_rank_le
  have hgreatest : ∀ args, IsExtreme (· ≥ ·) args (greatest args) :=
    prefers_larger.isExtreme fun hx hy => Number.le_iff_rank_le hy hx
  refine ⟨hleast args, hgreatest args, ?_⟩
  intro others h
  have hleaves : ∀ w, Value.IsLeaf w args ↔ Value.IsLeaf w others := fun w => h.isLeaf_iff
  constructor
  · refine (hleast args).agree (hleast others) ?_ hleaves
    intro x y hx hy hxy hyx
    rw [Number.le_iff_rank_le hx hy] at hxy
    rw [Number.le_iff_rank_le hy hx] at hyx
    exact Number.agree_of_rank_eq hx hy (le_antisymm hxy hyx)
  · refine (hgreatest args).agree (hgreatest others) ?_ hleaves
    intro x y hx hy hyx hxy
    rw [ge_iff_le, Number.le_iff_rank_le hy hx] at hyx
    rw [ge_iff_le, Number.le_iff_rank_le hx hy] at hxy
    exact Number.agree_of_rank_eq hx hy (le_antisymm hxy hyx)

/-- A number, and behind it what is not a number with a smaller one in an array: the same as the two
without the array and the number behind them. -/
theorem least_and_greatest_mixed :
    let args : List Value := [.number 3, .array [.number Number.nan, .number (-1)], .text "7"]
    let others : List Value := [.number Number.nan, .number (-1), .number 3, .text "7"]
    Value.Rearranged args others ∧ AgreeAsNumbers (least args) (least others) ∧
      AgreeAsNumbers (greatest args) (greatest others) := by
  intro args others
  have hmoved : Value.Rearranged args others :=
    (Value.Rearranged.swap _ _ _).trans (Value.Rearranged.group _ _).symm
  exact ⟨hmoved, (least_and_greatest args).2.2 others hmoved⟩

end extremes

end Aggregates

end RecordFormula
