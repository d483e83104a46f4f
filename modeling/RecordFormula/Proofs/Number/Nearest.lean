import RecordFormula.Proofs.Number.Value

/-!
# The nearest number

What it means that a number is a value correctly rounded, said by distances instead of bits: no finite
number is nearer, a tie goes to the even one, and what lies beyond the range is infinite.

* `Number.RoundsTo s q x` — the number `x` is the value `± q` rounded.
* **Neighbours** (`Fitting.above`, `Fitting.below`): between a number and its neighbours on either
  side there is no finite number.
* **What covers a value is the value rounded** (`roundsTo_ofParts`), also with a minus sign
  (`RoundsTo.neg`).
* **There is only one such number** (`RoundsTo.unique`).
-/

namespace RecordFormula

namespace Number

open Float.Model (UnpackedFloat)
open Float.Model.UnpackedFloat (Sign)

/-! ### Neighbours -/

section neighbours

variable {m n : Nat} {e f : Int} {x y : Float}

/-- A size in units of a smaller exponent. -/
theorem exists_units (n : Nat) (h : e ≤ f) : ∃ N : Nat, (n : ℚ) * 2 ^ f = N * 2 ^ e := by
  obtain ⟨k, rfl⟩ := Int.le.dest h
  refine ⟨n * 2 ^ k, ?_⟩
  rw [zpow_add₀ two_ne_zero, zpow_natCast]
  push_cast
  ring

/-- A greater size is at least one unit greater. -/
theorem Fitting.gap_above (hm : Fitting m e) (hn : Fitting n f)
    (h : (m : ℚ) * 2 ^ e < n * 2 ^ f) : (m + 1) * 2 ^ e ≤ (n : ℚ) * 2 ^ f := by
  have hpow : (0 : ℚ) < 2 ^ e := by positivity
  have hle : e ≤ f := by
    by_contra! hlt
    exact lt_asymm h (hn.lt_of_exponent_lt hm hlt)
  obtain ⟨N, hN⟩ := exists_units n hle
  rw [hN] at h ⊢
  have hlt : m < N := by exact_mod_cast lt_of_mul_lt_mul_right h hpow.le
  exact mul_le_mul_of_nonneg_right (by exact_mod_cast hlt) hpow.le

/-- A smaller size is smaller by one unit, or by half of one where the exponent steps. -/
theorem Fitting.gap_below (hm : Fitting m e) (hn : Fitting n f)
    (h : (n : ℚ) * 2 ^ f < m * 2 ^ e) : (n : ℚ) * 2 ^ f ≤ (m - 2 * lowerReach m e) * 2 ^ e := by
  have hpow : (0 : ℚ) < 2 ^ e := by positivity
  rcases le_or_gt e f with hle | hlt
  · obtain ⟨N, hN⟩ := exists_units n hle
    rw [hN] at h ⊢
    have hlt : N < m := by exact_mod_cast lt_of_mul_lt_mul_right h hpow.le
    have hlt' : (N : ℚ) + 1 ≤ m := by exact_mod_cast hlt
    exact mul_le_mul_of_nonneg_right (by linarith [lowerReach_le m e]) hpow.le
  · -- the greatest mantissa of the exponent before
    have hleast := hn.least
    have hlong : 2 ^ 52 ≤ m := hm.normal.resolve_right (by omega)
    have hshort : (n : ℚ) + 1 ≤ 2 ^ 53 := by exact_mod_cast hn.lt
    have hreach : (2 : ℚ) ^ 52 - 1 / 2 ≤ m - 2 * lowerReach m e := by
      rcases hlong.eq_or_lt with rfl | hlong
      · rw [lowerReach, if_pos ⟨rfl, by omega⟩]
        push_cast
        linarith
      · have hlong' : (2 : ℚ) ^ 52 + 1 ≤ m := by exact_mod_cast hlong
        linarith [lowerReach_le m e]
    calc (n : ℚ) * 2 ^ f
      _ ≤ (2 ^ 53 - 1) * 2 ^ (e - 1) :=
        mul_le_mul (by linarith) (zpow_le_zpow_right₀ one_le_two (by omega)) (by positivity)
          (by norm_num)
      _ = (2 ^ 52 - 1 / 2) * 2 ^ e := by rw [zpow_sub_one₀ two_ne_zero]; ring
      _ ≤ (m - 2 * lowerReach m e) * 2 ^ e := mul_le_mul_of_nonneg_right hreach hpow.le

/-- A finite number has a size, and its value is the size or the opposite of it. -/
theorem exists_size (hy : isFinite y) :
    ∃ n f, Fitting n f ∧ (value y = n * 2 ^ f ∨ value y = -(n * 2 ^ f)) := by
  rcases unpacked_of_isFinite hy with h | ⟨hc, h⟩
  · exact ⟨0, -1074, ⟨by norm_num, le_rfl, .inr rfl⟩, .inl (by simp [value_of_zero h])⟩
  · refine ⟨_, _, hc.fitting, ?_⟩
    rw [value_of_finite h]
    cases sign y with
    | positive => exact .inl rfl
    | negative => exact .inr rfl

/-- **A finite number above a size is at least one unit above it.** -/
theorem Fitting.above (hm : Fitting m e) (hy : isFinite y) (h : m * 2 ^ e < value y) :
    (m + 1) * 2 ^ e ≤ value y := by
  obtain ⟨n, f, hn, hval | hval⟩ := exists_size hy
  · rw [hval] at h ⊢
    exact hm.gap_above hn h
  · have hsize : (0 : ℚ) ≤ m * 2 ^ e := by positivity
    have hsize' : (0 : ℚ) ≤ n * 2 ^ f := by positivity
    linarith

/-- **A finite number below a size is below it by twice its reach.** -/
theorem Fitting.below (hm : Fitting m e) (hy : isFinite y) (h : value y < m * 2 ^ e) :
    value y ≤ (m - 2 * lowerReach m e) * 2 ^ e := by
  obtain ⟨n, f, hn, hval | hval⟩ := exists_size hy
  · rw [hval] at h ⊢
    exact hm.gap_below hn h
  have hsize : (0 : ℚ) ≤ n * 2 ^ f := by positivity
  rcases Nat.eq_zero_or_pos m with rfl | hpos
  · -- the least number below zero
    have hgap : (0 : ℚ) < n * 2 ^ f := by simpa [hval] using h
    have habove := hm.gap_above hn (by rwa [Nat.cast_zero, zero_mul])
    have hreach : lowerReach 0 e = 1 / 2 := if_neg fun hh => by simp at hh
    rw [hval, hreach]
    push_cast at habove ⊢
    linarith
  · have hone : (1 : ℚ) ≤ m := by exact_mod_cast hpos
    have hreach : (0 : ℚ) ≤ (m - 2 * lowerReach m e) * 2 ^ e :=
      mul_nonneg (by linarith [lowerReach_le m e]) (by positivity)
    linarith

end neighbours

/-! ### Opposite numbers -/

section opposite

variable {x : Float} {s : Sign} {q : ℚ}

/-- The opposite of a number has the opposite sign. -/
theorem sign_neg (hnan : isNaN x = false) : sign (-x) = -sign x := by
  have hneg := unpacked_neg x
  rcases unpacked_cases x with hx | hx | hx | ⟨hc, hx⟩ <;> rw [hx] at hneg
  · rw [isNaN_iff.mpr hx] at hnan
    cases hnan
  · exact sign_of_infinity hneg
  · exact sign_of_zero hneg
  · exact (of_unpacked_finite hneg).1

/-- The opposite of a number is a number. -/
theorem isNaN_neg (hnan : isNaN x = false) : isNaN (-x) = false := by
  rw [Bool.eq_false_iff, ne_eq, isNaN_iff] at hnan ⊢
  rw [unpacked_neg]
  cases hx : unpacked x <;> simp_all [UnpackedFloat.neg]

/-- The opposite of a finite number has the same mantissa. -/
theorem mantissa_neg (hfin : isFinite x) : (magnitude (-x)).mantissa = (magnitude x).mantissa := by
  have hneg := unpacked_neg x
  rcases unpacked_of_isFinite hfin with hx | ⟨hc, hx⟩ <;> rw [hx] at hneg
  · rw [mantissa_of_zero hx, mantissa_of_zero hneg]
  · rw [(of_unpacked_finite hneg).2.1]

/-- The opposite sign gives the opposite value. -/
theorem signed_neg (s : Sign) (q : ℚ) : signed (-s) q = -signed s q := by
  cases s with
  | negative => exact (Rat.neg_neg q).symm
  | positive => rfl

end opposite

/-! ### Rounding -/

section rounding

variable {x y : Float} {s : Sign} {m : Nat} {e : Int} {q : ℚ}

/-- The number is the value `± q`, rounded to the nearest number and in a tie to the even one. -/
structure RoundsTo (s : Sign) (q : ℚ) (x : Float) : Prop where
  /-- It is a number. -/
  isNaN_eq : isNaN x = false
  /-- It has the sign of the value, even if it is zero. -/
  sign_eq : sign x = s
  /-- It is infinite if the value is half a gap above the greatest number or more. -/
  isFinite_iff : isFinite x ↔ q < overflow
  /-- No finite number is nearer to the value. -/
  nearest : isFinite x → ∀ y, isFinite y → |value x - signed s q| ≤ |value y - signed s q|
  /-- If another one is as near, it is the one with the even mantissa. -/
  even : isFinite x → ∀ y, isFinite y → value y ≠ value x →
    |value y - signed s q| = |value x - signed s q| → (magnitude x).mantissa % 2 = 0

/-- What is made of a mantissa and an exponent is finite if the exponent is in the range, and then
it has their value. -/
theorem ofParts_spec (hf : Fitting m e) :
    (isFinite (ofParts m e) ↔ e ≤ 971) ∧
      (e ≤ 971 → value (ofParts m e) = m * 2 ^ e ∧ (magnitude (ofParts m e)).mantissa = m) := by
  rcases ofParts_cases hf with ⟨rfl, hx⟩ | ⟨hlt, hx⟩ | ⟨hc, hx⟩
  · have hleast : e = -1074 := hf.normal.resolve_left (by norm_num)
    rw [hx]
    refine ⟨⟨fun _ => by omega, fun _ => by decide⟩, fun _ => ?_⟩
    rw [value_of_zero unpacked_zero, mantissa_of_zero unpacked_zero, Nat.cast_zero, zero_mul]
    exact ⟨rfl, rfl⟩
  · rw [hx]
    exact ⟨⟨fun h => absurd h (by decide), fun h => by omega⟩, fun h => by omega⟩
  · obtain ⟨-, hmag, -⟩ := of_unpacked_finite hx
    have hfin : isFinite (ofParts m e) := by
      rw [Number.isFinite_iff, hx]
      rfl
    refine ⟨⟨fun _ => hc.most, fun _ => hfin⟩, fun _ => ?_⟩
    rw [value_of_finite hx, hmag]
    exact ⟨rfl, rfl⟩

/-- A value is as near to the number that covers it as to any other, and if it is as near to another
one, the mantissa is even. -/
theorem Covers.nearest (hq : Covers m e q) (hf : Fitting m e) (hy : isFinite y) :
    |(m : ℚ) * 2 ^ e - q| ≤ |value y - q| ∧
      (value y ≠ m * 2 ^ e → |value y - q| = |(m : ℚ) * 2 ^ e - q| → m % 2 = 0) := by
  have hpow : (0 : ℚ) < 2 ^ e := by positivity
  have hlow := hq.low
  have hhigh := hq.high
  have hreach : 0 < lowerReach m e * 2 ^ e := by
    unfold lowerReach
    split_ifs <;> positivity
  -- only the ends of the interval are as near to a neighbour, and they belong to the even mantissa
  have htie : (m - lowerReach m e) * 2 ^ e = q ∨ q = (m + 1 / 2) * 2 ^ e → m % 2 = 0 := by
    rcases hq with ⟨h₁, h₂⟩ | ⟨heven, -, -⟩
    · rintro (h | h)
      · exact absurd h h₁.ne
      · exact absurd h h₂.ne
    · exact fun _ => heven
  rcases lt_trichotomy (value y) (m * 2 ^ e) with h | h | h
  · have hbelow := hf.below hy h
    have habs : |value y - q| = q - value y := by
      rw [abs_sub_comm, abs_of_nonneg (by linarith)]
    rw [habs]
    refine ⟨abs_le.mpr ⟨by linarith, by linarith⟩, fun _ heq => htie (.inl ?_)⟩
    rcases abs_cases ((m : ℚ) * 2 ^ e - q) with ⟨habs', -⟩ | ⟨habs', -⟩ <;> linarith
  · exact ⟨by rw [h], fun hne => absurd h hne⟩
  · have habove := hf.above hy h
    have habs : |value y - q| = value y - q := abs_of_nonneg (by linarith)
    rw [habs]
    refine ⟨abs_le.mpr ⟨by linarith, by linarith⟩, fun _ heq => htie (.inr ?_)⟩
    rcases abs_cases ((m : ℚ) * 2 ^ e - q) with ⟨habs', -⟩ | ⟨habs', -⟩ <;> linarith

/-- **What covers a value is the value rounded.** -/
theorem roundsTo_ofParts (hf : Fitting m e) (hq : Covers m e q) :
    RoundsTo .positive q (ofParts m e) := by
  obtain ⟨hfin, hvalue⟩ := ofParts_spec hf
  refine ⟨isNaN_ofParts hf, sign_ofParts hf, hfin.trans (hq.le_most_iff hf), fun h y hy => ?_,
    fun h y hy => ?_⟩
  · rw [(hvalue (hfin.mp h)).1]
    exact (hq.nearest hf hy).1
  · rw [(hvalue (hfin.mp h)).1, (hvalue (hfin.mp h)).2]
    exact (hq.nearest hf hy).2

/-- **The opposite number is the opposite value rounded.** -/
theorem RoundsTo.neg (h : RoundsTo s q x) : RoundsTo (-s) q (-x) := by
  have hfin : isFinite (-x) ↔ isFinite x :=
    ⟨fun hx => neg_neg x ▸ isFinite_neg hx, isFinite_neg⟩
  have hdist : ∀ {y}, isFinite y → |value (-y) - signed s q| = |value y - signed (-s) q| := by
    intro y hy
    rw [value_neg hy, signed_neg, ← abs_neg]
    congr 1
    ring
  have hdist' : isFinite x → |value (-x) - signed (-s) q| = |value x - signed s q| := by
    intro hx
    rw [← hdist (isFinite_neg hx), neg_neg]
  refine ⟨isNaN_neg h.isNaN_eq, by rw [sign_neg h.isNaN_eq, h.sign_eq],
    hfin.trans h.isFinite_iff, fun hx y hy => ?_, fun hx y hy hne heq => ?_⟩
  · rw [hdist' (hfin.mp hx), ← hdist hy]
    exact h.nearest (hfin.mp hx) _ (isFinite_neg hy)
  · rw [mantissa_neg (hfin.mp hx)]
    refine h.even (hfin.mp hx) (-y) (isFinite_neg hy) ?_ ?_
    · rw [value_neg (hfin.mp hx)] at hne
      rw [value_neg hy]
      exact fun hh => hne (by rw [← hh, Rat.neg_neg])
    · rw [hdist hy, heq, hdist' (hfin.mp hx)]

/-- A finite number without a minus sign is made of its mantissa and an exponent. -/
theorem exists_ofParts (hfin : isFinite x) (hs : sign x = .positive) :
    ∃ m e, Fitting m e ∧ e ≤ 971 ∧ x = ofParts m e := by
  rcases unpacked_of_isFinite hfin with h | ⟨hc, h⟩ <;> rw [hs] at h
  · refine ⟨0, -1074, ⟨by norm_num, le_rfl, .inr rfl⟩, by norm_num, ?_⟩
    rw [ofParts_zero]
    exact unpacked_injective (h.trans unpacked_zero.symm)
  · exact ⟨_, _, hc.fitting, hc.most, eq_ofParts hc h⟩

/-- Of two numbers that a value rounds to, none is smaller: between two even mantissas there is an
odd one, which would be nearer. -/
theorem RoundsTo.value_le (hx : RoundsTo .positive q x) (hy : RoundsTo .positive q y)
    (hfx : isFinite x) (hfy : isFinite y) : value y ≤ value x := by
  by_contra! hlt
  have htie : |value y - q| = |value x - q| :=
    le_antisymm (hy.nearest hfy x hfx) (hx.nearest hfx y hfy)
  have heven := hx.even hfx y hfy hlt.ne' htie
  have heven' := hy.even hfy x hfx hlt.ne htie.symm
  obtain ⟨m, e, hf, he, rfl⟩ := exists_ofParts hfx hx.sign_eq
  obtain ⟨hval, hmantissa⟩ := (ofParts_spec hf).2 he
  rw [hmantissa] at heven
  rw [hval] at hlt htie
  -- the next number
  have hlt' := hf.lt
  have hf' : Fitting (m + 1) e := ⟨by omega, hf.least, hf.normal.imp_left fun h => by omega⟩
  obtain ⟨hfin, hnext⟩ := ofParts_spec hf'
  obtain ⟨hval', hmantissa'⟩ := hnext he
  push_cast at hval'
  have hpow : (0 : ℚ) < 2 ^ e := by positivity
  rcases (hf.above hfy hlt).eq_or_lt with heq | hgt
  · have hne : value (ofParts (m + 1) e) ≠ 0 := by
      rw [hval']
      positivity
    rw [← eq_of_value_eq (hfin.mpr he) hfy (hval'.trans heq) hne, hmantissa'] at heven'
    omega
  · have hnearest := hx.nearest hfx _ (hfin.mpr he)
    rw [signed, hval, hval'] at hnearest
    refine absurd hnearest (not_le.mpr ?_)
    have hmid : 2 * q = m * 2 ^ e + value y := by
      rcases abs_cases (value y - q) with ⟨h, -⟩ | ⟨h, -⟩ <;>
        rcases abs_cases ((m : ℚ) * 2 ^ e - q) with ⟨h', -⟩ | ⟨h', -⟩ <;> linarith
    have habs : |(m : ℚ) * 2 ^ e - q| = q - m * 2 ^ e := by
      rw [abs_sub_comm, abs_of_nonneg (by linarith)]
    rw [habs]
    exact abs_lt.mpr ⟨by linarith, by linarith⟩

/-- Without a minus sign a value rounds to one number only. -/
theorem RoundsTo.eq_of_positive (hx : RoundsTo .positive q x) (hy : RoundsTo .positive q y) :
    x = y := by
  refine unpacked_injective ?_
  by_cases hq : q < overflow
  · have hfx := hx.isFinite_iff.mpr hq
    have hfy := hy.isFinite_iff.mpr hq
    have hval : value x = value y :=
      le_antisymm (hy.value_le hx hfy hfx) (hx.value_le hy hfx hfy)
    by_cases hzero : value x = 0
    · have hux := IsWhole.unpacked_zero ⟨hfx, by rw [hzero, Int.cast_zero]⟩
      have huy := IsWhole.unpacked_zero ⟨hfy, by rw [← hval, hzero, Int.cast_zero]⟩
      rw [hux, huy, hx.sign_eq, hy.sign_eq]
    · rw [eq_of_value_eq hfx hfy hval hzero]
  · have hfx : isFinite x = false := Bool.eq_false_iff.mpr fun h => hq (hx.isFinite_iff.mp h)
    have hfy : isFinite y = false := Bool.eq_false_iff.mpr fun h => hq (hy.isFinite_iff.mp h)
    rw [unpacked_of_infinite hx.isNaN_eq hfx, unpacked_of_infinite hy.isNaN_eq hfy, hx.sign_eq,
      hy.sign_eq]

/-- **A value rounds to one number only.** -/
theorem RoundsTo.unique (hx : RoundsTo s q x) (hy : RoundsTo s q y) : x = y := by
  cases s with
  | negative => rw [← neg_neg x, hx.neg.eq_of_positive hy.neg, neg_neg]
  | positive => exact hx.eq_of_positive hy

end rounding

end Number

end RecordFormula
