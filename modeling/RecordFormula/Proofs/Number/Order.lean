import RecordFormula.Proofs.Number.Parts

/-!
# The order of numbers

Two numbers are ordered as their parts are, unless one of them is not a number.

* **Turning the operands round turns the order round** (`compare_swap`).
* **Only what is not a number has no order** (`compare_eq_none_iff`).
* `Agree` — equal numbers, or two that are not numbers; **numbers that agree stand in the same order
  to every other** (`Agree.compare`).
-/

namespace RecordFormula

namespace Number

open Float.Model (UnpackedFloat)
open Float.Model.UnpackedFloat (Sign)

/-! ### Parts -/

section parts

variable {a b c : UnpackedFloat}

/-- Turning the operands round turns the order round. -/
theorem compare_swap (a b : UnpackedFloat) : b.compare a = (a.compare b).map Ordering.swap := by
  cases a with
  | notANumber => cases b <;> rfl
  | infinity s =>
    cases b with
    | notANumber => cases s <;> rfl
    | infinity t => cases s <;> cases t <;> rfl
    | zero t => cases s <;> rfl
    | finite t n f hn => cases s <;> rfl
  | zero s =>
    cases b with
    | notANumber => rfl
    | infinity t => cases t <;> rfl
    | zero t => rfl
    | finite t n f hn => cases t <;> rfl
  | finite s m e hm =>
    cases b with
    | notANumber => cases s <;> rfl
    | infinity t => cases t <;> rfl
    | zero t => cases s <;> rfl
    | finite t n f hn =>
      -- between numbers of one sign the exponents decide, and then the mantissas
      have hswap : ((compare e f).then (compare m n)).swap = (compare f e).then (compare n m) := by
        rw [Ordering.swap_then, Int.compare_swap, Nat.compare_swap]
      cases s <;> cases t
      · simp only [UnpackedFloat.compare, Option.map_some, hswap]
      · rfl
      · rfl
      · simp only [UnpackedFloat.compare, Option.map_some, hswap]

/-- Only what is not a number has no order. -/
theorem compare_eq_none_iff : a.compare b = none ↔ a = .notANumber ∨ b = .notANumber := by
  constructor
  · intro h
    unfold UnpackedFloat.compare at h
    split at h
    · exact .inl rfl
    · exact .inr rfl
    all_goals cases h
  · rintro (rfl | rfl)
    · cases b <;> rfl
    · cases a <;> rfl

/-- The sign of a zero does not matter. -/
theorem compare_zero (a : UnpackedFloat) (s t : Sign) :
    a.compare (.zero s) = a.compare (.zero t) := by
  cases a with
  | notANumber => rfl
  | infinity u => cases u <;> rfl
  | zero u => rfl
  | finite u m e hm => cases u <;> rfl

/-- Equal numbers stand in the same order to every other. -/
theorem compare_of_beq (h : b.beq c = true) : a.compare b = a.compare c := by
  rw [UnpackedFloat.beq_iff_ne_notANumber_and_eq] at h
  obtain ⟨-, -, rfl | ⟨rfl, rfl⟩ | ⟨rfl, rfl⟩⟩ := h
  · rfl
  · exact compare_zero ..
  · exact compare_zero ..

end parts

/-! ### Numbers -/

section numbers

variable {x y z : Float}

/-- The order of two numbers, by their parts. -/
def order? (x y : Float) : Option Ordering := (unpacked x).compare (unpacked y)

/-- Turning two numbers round turns their order round. -/
theorem order?_swap (x y : Float) : order? y x = (order? x y).map Ordering.swap := compare_swap ..

/-- Two numbers without an order are not both numbers. -/
theorem order?_eq_none_iff : order? x y = none ↔ isNaN x = true ∨ isNaN y = true := by
  rw [order?, compare_eq_none_iff, isNaN_iff, isNaN_iff]

/-- A number is below another if it comes first. -/
theorem lt_iff_order? : x < y ↔ order? x y = some .lt := by
  rw [lt_iff, UnpackedFloat.lt, beq_iff_eq, order?]

/-- A number is equal to another if neither comes first. -/
theorem beq_iff_order? : (x == y) = true ↔ order? x y = some .eq := by
  show (unpacked x).beq (unpacked y) = true ↔ _
  rw [UnpackedFloat.beq, beq_iff_eq, order?]

/-- A number is at most another if it does not come behind it. -/
theorem le_iff_order? : x ≤ y ↔ (order? x y).any (·.isLE) = true := by
  show (decide (x.toModel ≤ y.toModel) = true) ↔ _
  rw [decide_eq_true_eq]
  rfl

/-- Equality of numbers goes both ways. -/
theorem beq_comm (x y : Float) : (x == y) = (y == x) := by
  rw [Bool.eq_iff_iff, beq_iff_order?, beq_iff_order?, order?_swap y x]
  cases order? y x with
  | none => simp
  | some o => cases o <;> simp

/-- A number equals itself, unless it is not a number. -/
theorem beq_self_iff : (x == x) = true ↔ isNaN x = false := by
  rw [isNaN, Bool.not_eq_false']

/-- A number that is infinite is the infinity of its sign. -/
theorem beq_of_infinite (hnan : isNaN x = false) (hfin : isFinite x = false) :
    ((if x < 0.0 then -infinity else infinity) == x) = true := by
  have hx := unpacked_of_infinite hnan hfin
  have hlt : x < 0.0 ↔ sign x = .negative := by
    rw [lt_iff, hx, unpacked_zero]
    cases sign x <;> simp [UnpackedFloat.lt, UnpackedFloat.compare]
  have hbeq : ∀ y, (y == x) = (unpacked y).beq (unpacked x) := fun y => rfl
  cases hs : sign x with
  | negative =>
    rw [if_pos (hlt.mpr hs), hbeq, hx, hs]
    rfl
  | positive =>
    rw [if_neg (by rw [hlt, hs]; simp), hbeq, hx, hs]
    rfl

/-- Do the numbers agree: are they equal, or both not a number? -/
def Agree (x y : Float) : Prop := (x == y) = true ∨ (isNaN x = true ∧ isNaN y = true)

/-- Every number agrees with itself. -/
theorem Agree.refl (x : Float) : Agree x x := by
  by_cases h : isNaN x
  · exact .inr ⟨h, h⟩
  · exact .inl (beq_self_iff.mpr (by simpa using h))

/-- Agreement goes both ways. -/
theorem Agree.symm (h : Agree x y) : Agree y x := by
  rcases h with h | ⟨hx, hy⟩
  · exact .inl (by rw [beq_comm, h])
  · exact .inr ⟨hy, hx⟩

/-- What is not a number agrees with nothing else. -/
theorem agree_iff_of_isNaN (h : isNaN y = true) : Agree x y ↔ isNaN x = true := by
  constructor
  · rintro (heq | ⟨hx, -⟩)
    · rw [beq_iff_order?, order?_eq_none_iff.mpr (.inr h)] at heq
      cases heq
    · exact hx
  · exact fun hx => .inr ⟨hx, h⟩

/-- Numbers that agree stand in the same order to every other. -/
theorem Agree.order?_eq (h : Agree y z) (x : Float) : order? x y = order? x z := by
  rcases h with h | ⟨hy, hz⟩
  · exact compare_of_beq h
  · rw [order?_eq_none_iff.mpr (.inr hy), order?_eq_none_iff.mpr (.inr hz)]

end numbers

end Number

end RecordFormula
