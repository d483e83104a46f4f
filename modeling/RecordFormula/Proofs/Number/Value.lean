import RecordFormula.Proofs.Number.Order
import RecordFormula.Proofs.Number.Whole

/-!
# The value of a number

A finite number stands for a rational number. Numbers are ordered as their values are, and where the
exact result of a product or a quotient is a small whole number, it is the result.

* `Number.value` — the value of a finite number. **Numbers have the order of their values**
  (`order?_eq_compare`, `lt_iff_value_lt`, `le_iff_value_le`).
* `Number.IsWhole` — the number is finite and its value is the given integer.
* **Small integers become whole numbers** (`isWhole_ofInt`), **and a whole number is made of its
  integer**, up to the sign of zero (`IsWhole.eq_ofInt`).
* **Products and quotients of whole numbers** (`IsWhole.mul`, `IsWhole.div`), whole parts
  (`IsWhole.truncate_eq`, `IsWhole.floor_eq`) and rounding (`exists_isWhole_round`).
-/

namespace RecordFormula

namespace Number

open Float.Model (Format UnpackedFloat)
open Float.Model.UnpackedFloat (Sign)

/-! ### Values -/

section values

variable {x y : Float} {s : Sign} {m n : Nat} {e f : Int}

/-- A size with a sign. -/
def signed (s : Sign) (q : ℚ) : ℚ :=
  match s with
  | .positive => q
  | .negative => -q

/-- The value of a finite number. -/
def value (x : Float) : ℚ := signed (sign x) ((magnitude x).mantissa * 2 ^ (magnitude x).exponent)

/-- The value of zero, whatever its sign. -/
theorem value_of_zero (h : unpacked x = .zero s) : value x = 0 := by
  rw [value, mantissa_of_zero h]
  cases sign x <;> simp [signed]

/-- The value of a number from its parts. -/
theorem value_of_finite {hm : 0 < m} (h : unpacked x = .finite s m e hm) :
    value x = signed s (m * 2 ^ e) := by
  obtain ⟨hs, hmag, -⟩ := of_unpacked_finite h
  rw [value, hs, hmag]

/-- The opposite of a finite number has the opposite value. -/
theorem value_neg (hfin : isFinite x) : value (-x) = -value x := by
  have hneg := unpacked_neg x
  rcases unpacked_of_isFinite hfin with hx | ⟨hc, hx⟩
  · rw [hx] at hneg
    rw [value_of_zero hx, value_of_zero hneg, neg_zero]
  · rw [hx] at hneg
    rw [value_of_finite hx, value_of_finite hneg]
    cases sign x <;> simp [signed]

end values

/-! ### Order -/

section order

variable {x y : Float} {m n : Nat} {e f : Int}

/-- A number of a smaller exponent is smaller. -/
theorem Fitting.lt_of_exponent_lt (hm : Fitting m e) (hn : Fitting n f) (h : e < f) :
    (m : ℚ) * 2 ^ e < n * 2 ^ f := by
  have hpow : (0 : ℚ) < 2 ^ e := by positivity
  -- the exponent is not the least one, so the mantissa has its full length
  have hlong : 2 ^ 52 ≤ n := by
    have hleast := hm.least
    exact hn.normal.resolve_right (by omega)
  have hlt : (m : ℚ) < 2 ^ 53 := by exact_mod_cast hm.lt
  calc (m : ℚ) * 2 ^ e
    _ < 2 ^ 53 * 2 ^ e := mul_lt_mul_of_pos_right hlt hpow
    _ = 2 ^ 52 * 2 ^ (e + 1) := by rw [zpow_add_one₀ two_ne_zero]; ring
    _ ≤ n * 2 ^ f :=
      mul_le_mul (by exact_mod_cast hlong) (zpow_le_zpow_right₀ one_le_two (by omega))
        (by positivity) (by positivity)

/-- Sizes are ordered by their exponents, and by their mantissas if these are equal. -/
theorem Canonical.compare_eq (hm : Canonical m e) (hn : Canonical n f) :
    (compare e f).then (compare m n) = compare ((m : ℚ) * 2 ^ e) (n * 2 ^ f) := by
  rcases lt_trichotomy e f with h | rfl | h
  · rw [compare_lt_iff_lt.mpr h, compare_lt_iff_lt.mpr (hm.fitting.lt_of_exponent_lt hn.fitting h)]
    rfl
  · have hpow : (0 : ℚ) < 2 ^ e := by positivity
    rw [compare_eq_iff_eq.mpr rfl, Ordering.then]
    rcases lt_trichotomy m n with h | rfl | h
    · rw [compare_lt_iff_lt.mpr h, eq_comm, compare_lt_iff_lt]
      exact mul_lt_mul_of_pos_right (by exact_mod_cast h) hpow
    · rw [compare_eq_iff_eq.mpr rfl, compare_eq_iff_eq.mpr rfl]
    · rw [compare_gt_iff_gt.mpr h, eq_comm, compare_gt_iff_gt]
      exact mul_lt_mul_of_pos_right (by exact_mod_cast h) hpow
  · rw [compare_gt_iff_gt.mpr h, compare_gt_iff_gt.mpr (hn.fitting.lt_of_exponent_lt hm.fitting h)]
    rfl

/-- Opposite values stand in the opposite order. -/
theorem compare_neg (p q : ℚ) : compare (-p) (-q) = (compare p q).swap := by
  rcases lt_trichotomy p q with h | rfl | h
  · rw [compare_lt_iff_lt.mpr h, compare_gt_iff_gt.mpr (neg_lt_neg h)]
    rfl
  · rw [compare_eq_iff_eq.mpr rfl, compare_eq_iff_eq.mpr rfl]
    rfl
  · rw [compare_gt_iff_gt.mpr h, compare_lt_iff_lt.mpr (neg_lt_neg h)]
    rfl

/-- **Finite numbers have the order of their values.** -/
theorem order?_eq_compare (hx : isFinite x) (hy : isFinite y) :
    order? x y = some (compare (value x) (value y)) := by
  have hsize {m : Nat} {e : Int} (h : Canonical m e) : (0 : ℚ) < m * 2 ^ e := by
    have hpos : (0 : ℚ) < m := by exact_mod_cast h.pos
    positivity
  unfold order?
  rcases unpacked_of_isFinite hx with hux | ⟨hcx, hux⟩
  · rcases unpacked_of_isFinite hy with huy | ⟨hcy, huy⟩
    · rw [value_of_zero hux, value_of_zero huy, hux, huy, compare_eq_iff_eq.mpr rfl]
      rfl
    · rw [value_of_zero hux, value_of_finite huy, hux, huy]
      have hpos := hsize hcy
      cases sign y with
      | positive => exact congrArg some (compare_lt_iff_lt.mpr hpos).symm
      | negative => exact congrArg some (compare_gt_iff_gt.mpr (neg_lt_zero.mpr hpos)).symm
  · have hpos := hsize hcx
    rcases unpacked_of_isFinite hy with huy | ⟨hcy, huy⟩
    · rw [value_of_finite hux, value_of_zero huy, hux, huy]
      cases sign x with
      | positive => exact congrArg some (compare_gt_iff_gt.mpr hpos).symm
      | negative => exact congrArg some (compare_lt_iff_lt.mpr (neg_lt_zero.mpr hpos)).symm
    · have hpos' := hsize hcy
      rw [value_of_finite hux, value_of_finite huy, hux, huy]
      cases sign x with
      | positive =>
        cases sign y with
        | positive => exact congrArg some (hcx.compare_eq hcy)
        | negative =>
          exact congrArg some (compare_gt_iff_gt.mpr ((neg_lt_zero.mpr hpos').trans hpos)).symm
      | negative =>
        cases sign y with
        | positive =>
          exact congrArg some (compare_lt_iff_lt.mpr ((neg_lt_zero.mpr hpos).trans hpos')).symm
        | negative =>
          -- the order of the sizes, turned round
          show some ((compare _ _).then (compare _ _)).swap = some (compare (-_) (-_))
          rw [hcx.compare_eq hcy, compare_neg]

/-- A finite number is below another if its value is. -/
theorem lt_iff_value_lt (hx : isFinite x) (hy : isFinite y) : x < y ↔ value x < value y := by
  rw [lt_iff_order?, order?_eq_compare hx hy, Option.some_inj, compare_lt_iff_lt]

/-- A finite number is equal to another if its value is. -/
theorem beq_iff_value_eq (hx : isFinite x) (hy : isFinite y) :
    (x == y) = true ↔ value x = value y := by
  rw [beq_iff_order?, order?_eq_compare hx hy, Option.some_inj, compare_eq_iff_eq]

/-- A finite number is at most another if its value is. -/
theorem le_iff_value_le (hx : isFinite x) (hy : isFinite y) : x ≤ y ↔ value x ≤ value y := by
  rw [le_iff_order?, order?_eq_compare hx hy, Option.any_some, ← compare_le_iff_le,
    Ordering.isLE_iff_ne_gt]

end order

/-! ### Whole numbers -/

section whole

variable {x y : Float} {i j : Int} {n : Nat}

/-- The number is finite, and its value is the given integer. -/
structure IsWhole (x : Float) (i : Int) : Prop where
  /-- The number is finite. -/
  isFinite : isFinite x
  /-- Its value is the integer. -/
  value_eq : value x = i

/-- Zero is a whole number, whatever its sign. -/
theorem isWhole_of_zero {s : Sign} (h : unpacked x = .zero s) : IsWhole x 0 := by
  refine ⟨isFinite_iff.mpr ?_, ?_⟩
  · rw [h]
    rfl
  · rw [value_of_zero h, Int.cast_zero]

/-- The opposite of a whole number is the opposite integer. -/
theorem IsWhole.neg (h : IsWhole x i) : IsWhole (-x) (-i) := by
  refine ⟨isFinite_neg h.isFinite, ?_⟩
  rw [value_neg h.isFinite, h.value_eq, Int.cast_neg]

/-- **A small natural number becomes a whole number.** -/
theorem isWhole_ofNat (h : n < 2 ^ 53) : IsWhole (Float.ofNat n) n := by
  rcases Nat.eq_zero_or_pos n with rfl | hpos
  · exact isWhole_of_zero (s := .positive) rfl
  · obtain ⟨m, e, hc, hx, hval⟩ := exists_unpacked_ofNat hpos h
    refine ⟨isFinite_ofNat (by omega), ?_⟩
    rw [value_of_finite hx, signed, hval, Int.cast_natCast]

/-- **A small integer becomes a whole number.** -/
theorem isWhole_ofInt (h : i.natAbs < 2 ^ 53) : IsWhole (Float.ofInt i) i := by
  cases i with
  | ofNat n => exact isWhole_ofNat h
  | negSucc n => exact (isWhole_ofNat h).neg

/-- A size with a sign is of that size. -/
theorem abs_signed (s : Sign) {q : ℚ} (h : 0 ≤ q) : |signed s q| = q := by
  cases s
  · rw [signed, abs_neg, abs_of_nonneg h]
  · rw [signed, abs_of_nonneg h]

/-- The parts of a whole number other than zero. Its mantissa has full length. -/
theorem IsWhole.exists_unpacked (h : IsWhole x i) (hi : i ≠ 0) :
    ∃ m e, ∃ hc : Canonical m e, unpacked x = .finite (sign x) m e hc.pos ∧
      (m : ℚ) * 2 ^ e = i.natAbs ∧ 2 ^ 52 ≤ m := by
  obtain ⟨hfin, hvalue⟩ := h
  rcases unpacked_of_isFinite hfin with hx | ⟨hc, hx⟩
  · rw [value_of_zero hx] at hvalue
    exact absurd (by exact_mod_cast hvalue.symm) hi
  rw [value_of_finite hx] at hvalue
  generalize (magnitude x).mantissa = m at hc hx hvalue
  generalize (magnitude x).exponent = e at hc hx hvalue
  have hsize : (m : ℚ) * 2 ^ e = i.natAbs := by
    rw [Nat.cast_natAbs, Int.cast_abs, ← hvalue, abs_signed _ (by positivity)]
  refine ⟨m, e, hc, hx, hsize, ?_⟩
  -- a short mantissa is that of a number below one
  refine hc.normal.resolve_right fun he => ?_
  have hone : (1 : ℚ) ≤ i.natAbs := by exact_mod_cast Int.natAbs_pos.mpr hi
  have hlt : (m : ℚ) < 2 ^ 53 := by exact_mod_cast hc.lt
  have hsmall : (m : ℚ) * 2 ^ (-1074 : Int) < 1 := by
    calc (m : ℚ) * 2 ^ (-1074 : Int)
      _ < 2 ^ (53 : Int) * 2 ^ (-1074 : Int) :=
        mul_lt_mul_of_pos_right (by exact_mod_cast hlt) (by positivity)
      _ = 2 ^ (-1021 : Int) := by rw [← zpow_add₀ two_ne_zero]; rfl
      _ ≤ 2 ^ (0 : Int) := zpow_le_zpow_right₀ one_le_two (by norm_num)
      _ = 1 := zpow_zero 2
  rw [← hsize, he] at hone
  exact absurd hone (not_le.mpr hsmall)

/-- The integer zero is zero, whatever its sign. -/
theorem IsWhole.unpacked_zero (h : IsWhole x 0) : unpacked x = .zero (sign x) := by
  rcases unpacked_of_isFinite h.isFinite with hx | ⟨hc, hx⟩
  · exact hx
  · have hvalue := h.value_eq
    have hm : (0 : ℚ) < (magnitude x).mantissa := by exact_mod_cast hc.pos
    have hsize : (0 : ℚ) < (magnitude x).mantissa * 2 ^ (magnitude x).exponent := by positivity
    rw [value_of_finite hx] at hvalue
    rw [← abs_signed (sign x) hsize.le, hvalue] at hsize
    exact absurd hsize (by simp)

/-- Only zeros have the value of another number. -/
theorem eq_of_value_eq (hx : Number.isFinite x) (hy : Number.isFinite y) (h : value x = value y)
    (hzero : value x ≠ 0) : x = y := by
  have hbeq : (x == y) = true := (beq_iff_value_eq hx hy).mpr h
  obtain ⟨-, -, heq | ⟨rfl, -⟩ | ⟨rfl, -⟩⟩ := Float.beq_iff_ne_nan_and_eq.mp hbeq
  · exact heq
  · exact absurd (value_of_zero (s := .positive) rfl) hzero
  · exact absurd (value_of_zero (s := .negative) rfl) hzero

/-- **A small whole number is made of its integer**, unless it is a zero. -/
theorem IsWhole.eq_ofInt (h : IsWhole x i) (hi : i ≠ 0) (hsmall : i.natAbs < 2 ^ 53) :
    x = Float.ofInt i := by
  have h' := isWhole_ofInt hsmall
  refine eq_of_value_eq h.isFinite h'.isFinite (by rw [h.value_eq, h'.value_eq]) ?_
  rw [h.value_eq]
  exact_mod_cast hi

/-! ### Products and quotients -/

/-- Signs of products are products of signs. -/
theorem signed_mul (s t : Sign) (p q : ℚ) : signed (s * t) (p * q) = signed s p * signed t q := by
  cases s <;> cases t
  · exact (neg_mul_neg p q).symm
  · exact (neg_mul p q).symm
  · exact (mul_neg p q).symm
  · rfl

/-- Signs of quotients are quotients of signs. -/
theorem signed_div (s t : Sign) (p q : ℚ) : signed (s / t) (p / q) = signed s p / signed t q := by
  cases s <;> cases t
  · exact (neg_div_neg_eq p q).symm
  · exact (neg_div q p).symm
  · exact (div_neg p).symm
  · rfl

/-- The number with a sign and the parts of a small natural number. -/
theorem exists_canonical_of_lt {n : Nat} (hpos : 0 < n) (hlt : n < 2 ^ 53) :
    ∃ m e, Canonical m e ∧ (m : ℚ) * 2 ^ e = n := by
  obtain ⟨m, e, hc, -, hval⟩ := exists_unpacked_ofNat hpos hlt
  exact ⟨m, e, hc, hval⟩

/-- **A product of whole numbers** that is small enough is the product of the integers. -/
theorem IsWhole.mul (hx : IsWhole x i) (hy : IsWhole y j) (h : (i * j).natAbs < 2 ^ 53) :
    IsWhole (x * y) (i * j) := by
  have hparts : x * y =
      .ofModel (.pack (UnpackedFloat.mul Format.binary64 (unpacked x) (unpacked y))) := rfl
  have hzero : ∀ s, UnpackedFloat.mul Format.binary64 (unpacked x) (unpacked y) = .zero s →
      IsWhole (x * y) 0 := by
    intro s hs
    rw [hparts, hs]
    cases s
    · exact isWhole_of_zero (s := .negative) rfl
    · exact isWhole_of_zero (s := .positive) rfl
  by_cases hi : i = 0
  · subst hi
    rw [zero_mul]
    by_cases hj : j = 0
    · subst hj
      exact hzero _ (by rw [hx.unpacked_zero, hy.unpacked_zero]; rfl)
    · obtain ⟨m, e, hc, huy, -⟩ := hy.exists_unpacked hj
      exact hzero _ (by rw [hx.unpacked_zero, huy]; rfl)
  by_cases hj : j = 0
  · subst hj
    rw [mul_zero]
    obtain ⟨m, e, hc, hux, -⟩ := hx.exists_unpacked hi
    exact hzero _ (by rw [hux, hy.unpacked_zero]; rfl)
  obtain ⟨m₁, e₁, hc₁, hux, hval₁, hlong⟩ := hx.exists_unpacked hi
  obtain ⟨m₂, e₂, hc₂, huy, hval₂, -⟩ := hy.exists_unpacked hj
  obtain ⟨m, e, hc, hval⟩ := exists_canonical_of_lt (Int.natAbs_pos.mpr (mul_ne_zero hi hj)) h
  have hsize : (m : ℚ) * 2 ^ e = m₁ * 2 ^ e₁ * (m₂ * 2 ^ e₂) := by
    rw [hval, hval₁, hval₂, Int.natAbs_mul, Nat.cast_mul]
  have hmul := mul_eq hc hc₁.pos hc₂.pos (hsize ▸ Decimal.covers_self)
    (hlong.trans (Nat.le_mul_of_pos_right _ hc₂.pos)) (sign x) (sign y)
  have hunpacked : unpacked (x * y) = .finite (sign x * sign y) m e hc.pos := by
    rw [hparts, hux, huy, hmul]
    exact unpacked_finite hc _
  refine ⟨isFinite_iff.mpr (by rw [hunpacked]; rfl), ?_⟩
  rw [value_of_finite hunpacked, hsize, signed_mul, ← value_of_finite hux, ← value_of_finite huy,
    hx.value_eq, hy.value_eq, Int.cast_mul]

/-- **A quotient of whole numbers** that is small and whole is the quotient of the integers. -/
theorem IsWhole.div (hx : IsWhole x (i * j)) (hy : IsWhole y j) (hj : j ≠ 0)
    (h : i.natAbs < 2 ^ 53) : IsWhole (x / y) i := by
  have hparts : x / y =
      .ofModel (.pack (UnpackedFloat.div Format.binary64 (unpacked x) (unpacked y))) := rfl
  obtain ⟨m₂, e₂, hc₂, huy, hval₂, -⟩ := hy.exists_unpacked hj
  by_cases hi : i = 0
  · subst hi
    rw [zero_mul] at hx
    rw [hparts, hx.unpacked_zero, huy, UnpackedFloat.div]
    cases sign x / sign y
    · exact isWhole_of_zero (s := .negative) rfl
    · exact isWhole_of_zero (s := .positive) rfl
  have hj' : (j : ℚ) ≠ 0 := by exact_mod_cast hj
  obtain ⟨m₁, e₁, hc₁, hux, hval₁, -⟩ := hx.exists_unpacked (mul_ne_zero hi hj)
  obtain ⟨m, e, hc, hval⟩ := exists_canonical_of_lt (Int.natAbs_pos.mpr hi) h
  have hsize : (m : ℚ) * 2 ^ e = m₁ * 2 ^ e₁ / (m₂ * 2 ^ e₂) := by
    have hne : (j.natAbs : ℚ) ≠ 0 := by exact_mod_cast Int.natAbs_ne_zero.mpr hj
    rw [hval, hval₁, hval₂, Int.natAbs_mul, Nat.cast_mul, mul_div_cancel_right₀ _ hne]
  have hdiv := div_eq hc hc₁.pos hc₂.pos (hsize ▸ Decimal.covers_self) (sign x) (sign y)
  have hunpacked : unpacked (x / y) = .finite (sign x / sign y) m e hc.pos := by
    rw [hparts, hux, huy, hdiv]
    exact unpacked_finite hc _
  refine ⟨isFinite_iff.mpr (by rw [hunpacked]; rfl), ?_⟩
  rw [value_of_finite hunpacked, hsize, signed_div, ← value_of_finite hux, ← value_of_finite huy,
    hx.value_eq, hy.value_eq, Int.cast_mul, mul_div_cancel_right₀ _ hj']

/-! ### Whole parts -/

/-- The size of a whole number is a whole number. -/
theorem IsWhole.mantissa_eq (h : IsWhole x i) :
    (magnitude x).mantissa * 2 ^ (magnitude x).exponent.toNat =
      i.natAbs * 2 ^ (-(magnitude x).exponent).toNat := by
  have hsize : ((magnitude x).mantissa : ℚ) * 2 ^ (magnitude x).exponent = i.natAbs := by
    have hvalue := congrArg (|·|) h.value_eq
    rw [value, abs_signed _ (by positivity)] at hvalue
    rw [hvalue, Nat.cast_natAbs, Int.cast_abs]
  rw [Decimal.zpow_eq_div, mul_div_assoc', div_eq_iff (by positivity)] at hsize
  exact_mod_cast hsize

/-- **The whole part of a whole number** is the integer. -/
theorem IsWhole.truncate_eq (h : IsWhole x i) : truncate x = i := by
  have hwhole : (magnitude x).whole = i.natAbs := by
    rw [Magnitude.whole, Nat.pow_eq, Nat.pow_eq, h.mantissa_eq,
      Nat.mul_div_cancel _ (Nat.two_pow_pos _)]
  have hvalue := h.value_eq
  have hsize : (0 : ℚ) ≤ (magnitude x).mantissa * 2 ^ (magnitude x).exponent := by positivity
  rw [truncate, hwhole]
  unfold value sign at hvalue
  split_ifs at hvalue ⊢ with hneg
  · have hle : i ≤ 0 := by
      have : (i : ℚ) ≤ 0 := by
        rw [← hvalue]
        exact neg_nonpos.mpr hsize
      exact_mod_cast this
    omega
  · have hle : 0 ≤ i := by
      have : (0 : ℚ) ≤ i := by
        rw [← hvalue]
        exact hsize
      exact_mod_cast this
    omega

/-- A whole number is the greatest whole number that is not above it. -/
theorem IsWhole.floor_eq (h : IsWhole x i) : floor x = x := by
  have hwhole : (magnitude x).isWhole = true := by
    rw [Magnitude.isWhole, Nat.pow_eq, Nat.pow_eq, h.mantissa_eq, Nat.mul_mod_left]
    rfl
  simp [floor, hwhole]

/-- A number whose size is whole is whole. -/
theorem isWhole_of_magnitude (hfin : Number.isFinite x) (h : (magnitude x).isWhole = true) :
    ∃ i, IsWhole x i := by
  obtain ⟨n, hn⟩ : ∃ n : Nat, ((magnitude x).mantissa : ℚ) * 2 ^ (magnitude x).exponent = n := by
    rw [Magnitude.isWhole, beq_iff_eq, Nat.pow_eq, Nat.pow_eq] at h
    obtain ⟨n, hn⟩ := Nat.dvd_of_mod_eq_zero h
    refine ⟨n, ?_⟩
    rw [Decimal.zpow_eq_div, mul_div_assoc', div_eq_iff (by positivity), mul_comm (n : ℚ)]
    exact_mod_cast hn
  cases hs : sign x with
  | positive => exact ⟨n, hfin, by rw [value, hs, hn, signed, Int.cast_natCast]⟩
  | negative => exact ⟨-n, hfin, by rw [value, hs, hn, signed, Int.cast_neg, Int.cast_natCast]⟩

/-- **Rounding leads to a whole number.** -/
theorem exists_isWhole_round (hfin : Number.isFinite x) : ∃ i, IsWhole (round x) i := by
  rcases round_cases hfin with ⟨hwhole, hx⟩ | ⟨n, hn, hx⟩
  · rw [hx]
    exact isWhole_of_magnitude hfin hwhole
  · rw [hx, withSignOf]
    split_ifs
    · exact ⟨_, (isWhole_ofNat hn).neg⟩
    · exact ⟨_, isWhole_ofNat hn⟩

end whole

end Number

end RecordFormula
