import RecordFormula.Proofs.Number.Value

/-!
# The ranks of numbers

All numbers stand in one row: the finite ones where their values stand, negative infinity before
them and positive infinity behind them. Only what is not a number has no place in the row.

* `Number.rank` — the place of a number in the row.
* **Numbers have the order of their ranks** (`order?_eq_compare_rank`, `lt_iff_rank_lt`,
  `le_iff_rank_le`), and numbers of one rank agree (`agree_of_rank_eq`).
-/

namespace RecordFormula

namespace Number

variable {x y : Float}

/-- The place of a number among all numbers: that of its value, or beyond all values. -/
def rank (x : Float) : WithBot (WithTop ℚ) :=
  if isFinite x then ((value x : WithTop ℚ) : WithBot (WithTop ℚ))
  else if isNegative x then ⊥
  else ⊤

/-- The rank of a finite number is its value. -/
theorem rank_of_isFinite (h : isFinite x) : rank x = ((value x : WithTop ℚ) : WithBot (WithTop ℚ)) :=
  if_pos h

/-- What is infinite stands at the end of its sign. -/
theorem rank_of_infinite (hfin : isFinite x = false) :
    rank x = if isNegative x then ⊥ else ⊤ := by
  unfold rank
  rw [if_neg (by simp [hfin])]

/-- Numbers that are not infinite stand between the ends of the row. -/
theorem bot_lt_rank (h : isFinite x) : ⊥ < rank x := by
  rw [rank_of_isFinite h]
  exact WithBot.bot_lt_coe _

/-- Numbers that are not infinite stand before its last place. -/
theorem rank_lt_top (h : isFinite x) : rank x < ⊤ := by
  rw [rank_of_isFinite h]
  exact WithBot.coe_lt_coe.mpr (WithTop.coe_lt_top _)

/-- Values stand as they do among all places. -/
theorem compare_coe (p q : ℚ) :
    compare ((p : WithTop ℚ) : WithBot (WithTop ℚ)) (q : WithTop ℚ) = compare p q := by
  rcases lt_trichotomy p q with h | rfl | h
  · rw [compare_lt_iff_lt.mpr h, compare_lt_iff_lt]
    exact_mod_cast h
  · rw [compare_eq_iff_eq.mpr rfl, compare_eq_iff_eq.mpr rfl]
  · rw [compare_gt_iff_gt.mpr h, compare_gt_iff_gt]
    exact_mod_cast h

/-- A finite number stands before or behind an infinite one as the sign of that one says. -/
theorem order?_infinite (hx : isFinite x) (hy : isNaN y = false) (hfin : isFinite y = false) :
    order? x y = some (compare (rank x) (rank y)) := by
  have huy := unpacked_of_infinite hy hfin
  unfold sign at huy
  rw [rank_of_infinite hfin]
  unfold order?
  split_ifs at huy ⊢
  · rw [compare_gt_iff_gt.mpr (bot_lt_rank hx)]
    rcases unpacked_of_isFinite hx with hux | ⟨hc, hux⟩ <;> rw [hux, huy] <;> cases sign x <;> rfl
  · rw [compare_lt_iff_lt.mpr (rank_lt_top hx)]
    rcases unpacked_of_isFinite hx with hux | ⟨hc, hux⟩ <;> rw [hux, huy] <;> cases sign x <;> rfl

/-- Infinite numbers stand as their signs do. -/
theorem order?_infinite_infinite (hx : isNaN x = false) (hy : isNaN y = false)
    (hfx : isFinite x = false) (hfy : isFinite y = false) :
    order? x y = some (compare (rank x) (rank y)) := by
  have hux := unpacked_of_infinite hx hfx
  have huy := unpacked_of_infinite hy hfy
  have hends : (⊥ : WithBot (WithTop ℚ)) < ⊤ := bot_lt_top
  unfold sign at hux huy
  rw [rank_of_infinite hfx, rank_of_infinite hfy]
  unfold order?
  split_ifs at hux huy ⊢ <;> rw [hux, huy]
  · rw [compare_eq_iff_eq.mpr rfl]
    rfl
  · rw [compare_lt_iff_lt.mpr hends]
    rfl
  · rw [compare_gt_iff_gt.mpr hends]
    rfl
  · rw [compare_eq_iff_eq.mpr rfl]
    rfl

/-- **Numbers have the order of their ranks.** -/
theorem order?_eq_compare_rank (hx : isNaN x = false) (hy : isNaN y = false) :
    order? x y = some (compare (rank x) (rank y)) := by
  by_cases hfx : isFinite x
  · by_cases hfy : isFinite y
    · rw [order?_eq_compare hfx hfy, rank_of_isFinite hfx, rank_of_isFinite hfy, compare_coe]
    · exact order?_infinite hfx hy (by simpa using hfy)
  · rw [Bool.not_eq_true] at hfx
    by_cases hfy : isFinite y
    · rw [order?_swap, order?_infinite hfy hx hfx, Option.map_some, ← Std.OrientedCmp.eq_swap]
    · exact order?_infinite_infinite hx hy hfx (by simpa using hfy)

/-- A number is below another if its rank is. -/
theorem lt_iff_rank_lt (hx : isNaN x = false) (hy : isNaN y = false) :
    x < y ↔ rank x < rank y := by
  rw [lt_iff_order?, order?_eq_compare_rank hx hy, Option.some_inj, compare_lt_iff_lt]

/-- A number is at most another if its rank is. -/
theorem le_iff_rank_le (hx : isNaN x = false) (hy : isNaN y = false) :
    x ≤ y ↔ rank x ≤ rank y := by
  rw [le_iff_order?, order?_eq_compare_rank hx hy, Option.any_some, ← compare_le_iff_le,
    Ordering.isLE_iff_ne_gt]

/-- Numbers of one rank agree. -/
theorem agree_of_rank_eq (hx : isNaN x = false) (hy : isNaN y = false) (h : rank x = rank y) :
    Agree x y := by
  left
  rw [beq_iff_order?, order?_eq_compare_rank hx hy, Option.some_inj, compare_eq_iff_eq]
  exact h

end Number

end RecordFormula
