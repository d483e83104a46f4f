import RecordFormula.Decimal.Reading
import RecordFormula.Proofs.Number.Covering

/-!
# Reading is rounding

A spelled number is read as the number that its value rounds to. Short digits and small exponents
are read by one product or quotient of exact numbers, all others by one of whole numbers; both
round once.

* `exists_unpacked_toFloat` — whole numbers below `2 ^ 53` are exact.
* `exists_unpacked_power` — so are the powers of ten in the table.
* **A decimal is read as what covers it** (`nearest_eq_ofParts`), and so as the number that covers it
  (`nearest_eq`).
-/

namespace RecordFormula

namespace Decimal

open Number
open Float.Model (Format UnpackedFloat)

/-! ### Exact numbers -/

section exact

/-- A power with a whole exponent as a quotient of powers. -/
theorem zpow_eq_div (b : ℚ) (e : Int) : b ^ e = b ^ e.toNat / b ^ (-e).toNat := by
  obtain ⟨n, rfl | rfl⟩ := e.eq_nat_or_neg
  · simp
  · simp [zpow_neg]

/-- A number has the value that it stands for. -/
theorem covers_self {m : Nat} {e : Int} : Covers m e (m * 2 ^ e) := by
  have hpow : (0 : ℚ) < 2 ^ e := by positivity
  have hreach : 0 < lowerReach m e := by
    unfold lowerReach
    split_ifs <;> norm_num
  exact .inl ⟨mul_lt_mul_of_pos_right (by linarith) hpow,
    mul_lt_mul_of_pos_right (by linarith) hpow⟩

/-- A whole number below `2 ^ 53` is a mantissa of full length. -/
theorem exists_unpacked_toFloat {n : Nat} (hpos : 0 < n) (hlt : n < 2 ^ 53) :
    ∃ m e, ∃ hc : Canonical m e, unpacked n.toUInt64.toFloat = .finite .positive m e hc.pos ∧
      2 ^ 52 ≤ m ∧ (m : ℚ) * 2 ^ e = n := by
  have hlog : n.log2 < 53 := (Nat.log2_lt (by omega)).mpr hlt
  have hself := Nat.log2_self_le (n := n) (by omega)
  have hnext := Nat.lt_log2_self (n := n)
  obtain ⟨k, hk⟩ : ∃ k, n.log2 + k = 52 := ⟨52 - n.log2, by omega⟩
  have hlong : 2 ^ 52 ≤ n * 2 ^ k := by
    calc 2 ^ 52 = 2 ^ n.log2 * 2 ^ k := by rw [← pow_add, hk]
      _ ≤ n * 2 ^ k := Nat.mul_le_mul_right _ hself
  have hshort : n * 2 ^ k < 2 ^ 53 := by
    calc n * 2 ^ k < 2 ^ (n.log2 + 1) * 2 ^ k :=
          Nat.mul_lt_mul_of_pos_right hnext (by positivity)
      _ = 2 ^ 53 := by rw [← pow_add]; congr 1; omega
  have hc : Canonical (n * 2 ^ k) (-k) := ⟨by positivity, hshort, by omega, by omega, .inl hlong⟩
  have hval : ((n * 2 ^ k : ℕ) : ℚ) * 2 ^ (-k : Int) = n := by
    rw [zpow_neg, zpow_natCast]
    push_cast
    field_simp
  have hround : UnpackedFloat.round Format.binary64 .positive n 0 =
      .finite .positive (n * 2 ^ k) (-k) hc.pos := by
    have htarget : Format.binary64.targetExponent (Float.Model.totalExponent n 0) = -k := by
      rw [targetExponent_eq]
      omega
    simp only [UnpackedFloat.round, UnpackedFloat.decreaseExponent, htarget, Nat.shiftLeft_eq,
      Int.zero_sub, Int.neg_neg, Int.toNat_natCast]
    have hb : Between (((n * 2 ^ k : ℕ) : ℚ) * 2 ^ (-k : Int) / 2 ^ (-k : Int)) (n * 2 ^ k)
        .exact := mul_div_cancel_right₀ _ (by positivity)
    exact roundWithAccuracy_eq hc covers_self hb (.inl hlong) _
  refine ⟨n * 2 ^ k, -k, hc, ?_, hlong, hval⟩
  have hn : n.toUInt64.toNat = n := UInt64.toNat_ofNat_of_lt (by simp [UInt64.size]; omega)
  have hx : n.toUInt64.toFloat = .ofModel (.pack (UnpackedFloat.ofNat Format.binary64 n)) := by
    conv_rhs => rw [← hn]
    rfl
  have hcmp : compare (n : Int) 0 = .gt := Int.compare_eq_gt.mpr (by omega)
  rw [hx, UnpackedFloat.ofNat, UnpackedFloat.ofInt, UnpackedFloat.normalize, hcmp]
  simp only [Int.toNat_natCast, hround]
  exact unpacked_finite hc _

/-- The powers of ten that the table holds have full mantissas and the right size. -/
theorem powers_of_ten :
    ∀ i : Fin Float.exactlyRepresentablePowersOfTen.size,
      let x := Float.exactlyRepresentablePowersOfTen[i]
      let d := magnitude x
      exponentBits x ≠ 2047 ∧ isNegative x = false ∧ 2 ^ 52 ≤ d.mantissa ∧
        d.mantissa * 2 ^ d.exponent.toNat = 10 ^ (i : Nat) * 2 ^ (-d.exponent).toNat := by
  decide +kernel

/-- The powers of ten that the table holds are exact. -/
theorem exists_unpacked_power {k : Nat} (hk : k < Float.exactlyRepresentablePowersOfTen.size) :
    ∃ m e, ∃ hc : Canonical m e,
      unpacked Float.exactlyRepresentablePowersOfTen[k] = .finite .positive m e hc.pos ∧
        2 ^ 52 ≤ m ∧ (m : ℚ) * 2 ^ e = 10 ^ k := by
  obtain ⟨hexp, hs, hlong, hval⟩ := powers_of_ten ⟨k, hk⟩
  simp only [Fin.getElem_fin] at hexp hs hlong hval
  generalize Float.exactlyRepresentablePowersOfTen[k] = x at hexp hs hlong hval ⊢
  have hm : (magnitude x).mantissa ≠ 0 := fun h => by simp [h] at hlong
  refine ⟨_, _, canonical_magnitude hexp hm, ?_, hlong, ?_⟩
  · rw [unpacked_eq, if_neg hexp, dif_neg hm, isNegative_eq_false_iff.mp hs]
  · rw [zpow_eq_div, mul_div_assoc', div_eq_iff (by positivity)]
    exact_mod_cast hval

end exact

/-! ### Products and quotients with powers of ten -/

section scientific

variable {x : Float} {m digits : Nat} {e exponent : Int}

/-- A decimal of short digits and a small exponent is rounded to what covers it. -/
theorem ofScientific_of_short (hf : Fitting m e) (hq : Covers m e (digits * 10 ^ exponent))
    (hpos : 0 < digits) (hshort : digits < 2 ^ 53 ∧ exponent.natAbs ≤ 22) :
    Float.ofScientific digits (exponent < 0) exponent.natAbs = ofParts m e := by
  have hk : exponent.natAbs < Float.exactlyRepresentablePowersOfTen.size := by
    have hsize : Float.exactlyRepresentablePowersOfTen.size = 23 := rfl
    omega
  obtain ⟨m₁, e₁, hc₁, hx₁, hlong₁, hval₁⟩ := exists_unpacked_toFloat hpos hshort.1
  obtain ⟨m₂, e₂, hc₂, hx₂, hlong₂, hval₂⟩ := exists_unpacked_power hk
  rw [Float.ofScientific, dif_pos hshort]
  simp only [decide_eq_true_eq]
  generalize Float.exactlyRepresentablePowersOfTen[exponent.natAbs] = y at hx₂ ⊢
  split_ifs with hneg
  · have hdiv : digits.toUInt64.toFloat / y = .ofModel (.pack (UnpackedFloat.div Format.binary64
        (unpacked digits.toUInt64.toFloat) (unpacked y))) := rfl
    have hval : (m₁ : ℚ) * 2 ^ e₁ / (m₂ * 2 ^ e₂) = digits * 10 ^ exponent := by
      rw [hval₁, hval₂, div_eq_mul_inv, ← zpow_natCast, ← zpow_neg]
      congr 2
      omega
    rw [hdiv, hx₁, hx₂, div_sized hf hc₁.pos hc₂.pos (hval ▸ hq)]
    rfl
  · have hmul : digits.toUInt64.toFloat * y = .ofModel (.pack (UnpackedFloat.mul Format.binary64
        (unpacked digits.toUInt64.toFloat) (unpacked y))) := rfl
    have hval : (m₁ : ℚ) * 2 ^ e₁ * (m₂ * 2 ^ e₂) = digits * 10 ^ exponent := by
      rw [hval₁, hval₂, ← zpow_natCast]
      congr 2
      omega
    have hlong : 2 ^ 52 ≤ m₁ * m₂ := hlong₁.trans (Nat.le_mul_of_pos_right _ hc₂.pos)
    rw [hmul, hx₁, hx₂, mul_sized hf hc₁.pos hc₂.pos (hval ▸ hq) hlong]
    rfl

/-- Any decimal is rounded to what covers it, if its exponent is not beyond the range. -/
theorem ofScientific_of_long (hf : Fitting m e) (hq : Covers m e (digits * 10 ^ exponent))
    (hpos : 0 < digits) (hmost : exponent ≤ 2048)
    (hleast : -(2048 + (digits.log2 : Int)) ≤ exponent) :
    .ofModel (.ofScientific digits exponent) = ofParts m e := by
  have hof : UnpackedFloat.ofScientific Format.binary64 digits exponent = sized .positive m e := by
    have hbits : Format.binary64.exponentBits = 11 := rfl
    rw [UnpackedFloat.ofScientific, dif_neg hpos.ne', hbits, if_neg (by omega), if_neg (by omega)]
    split_ifs with hneg
    · -- how far the digits are shifted does not matter to the product
      obtain ⟨b, hb, hb53⟩ : ∃ b, Format.binary64.mantissaBits = b ∧ b = 53 := ⟨_, rfl, rfl⟩
      simp only [hb]
      have hval : ((digits <<< b : ℕ) : ℚ) * 2 ^ (-(b : ℕ) : Int) *
          ((10 ^ exponent.toNat : ℕ) * 2 ^ (0 : Int)) = digits * 10 ^ exponent := by
        rw [Nat.shiftLeft_eq, zpow_eq_div 10, show (-exponent).toNat = 0 by omega, zpow_neg,
          zpow_natCast]
        push_cast
        field_simp
      have hlong : 2 ^ 52 ≤ digits <<< b * 10 ^ exponent.toNat := by
        rw [Nat.shiftLeft_eq, hb53]
        calc 2 ^ 52 ≤ digits * 2 ^ 53 := by omega
          _ ≤ digits * 2 ^ 53 * 10 ^ exponent.toNat :=
            Nat.le_mul_of_pos_right _ (by positivity)
      exact mul_sized hf _ _ (hval ▸ hq) hlong _ _
    · have hval : (digits : ℚ) * 2 ^ (0 : Int) /
          ((10 ^ (-exponent).toNat : ℕ) * 2 ^ (0 : Int)) = digits * 10 ^ exponent := by
        rw [zpow_eq_div 10, show exponent.toNat = 0 by omega]
        push_cast
        field_simp
      exact div_sized hf _ _ (hval ▸ hq) _ _
  rw [ofParts, ← hof]
  rfl

/-- What the length of a number says about it. -/
theorem pow_length_le (hpos : 0 < digits) :
    10 ^ ((toString digits).length - 1) ≤ digits ∧ digits < 10 ^ (toString digits).length := by
  rw [Nat.toString_eq_repr]
  have hlen := Nat.length_repr_pos (n := digits)
  refine ⟨?_, (Nat.length_repr_le_iff hlen).mp le_rfl⟩
  rcases Nat.eq_zero_or_pos (digits.repr.length - 1) with h | h
  · rw [h]
    exact hpos
  · by_contra hlt
    have := (Nat.length_repr_le_iff h).mpr (Nat.lt_of_not_le hlt)
    omega

/-- The value of a decimal lies between two powers of ten. -/
theorem ten_zpow_le (hpos : 0 < digits) (exponent : Int) :
    (10 : ℚ) ^ (exponent + ((toString digits).length : Int) - 1) ≤ digits * 10 ^ exponent ∧
      (digits : ℚ) * 10 ^ exponent < 10 ^ (exponent + ((toString digits).length : Int)) := by
  obtain ⟨hleast, hmost⟩ := pow_length_le hpos
  have hlen : 0 < (toString digits).length := Nat.toString_eq_repr ▸ Nat.length_repr_pos
  generalize (toString digits).length = len at *
  have hp : (0 : ℚ) < 10 ^ exponent := by positivity
  constructor
  · rw [show exponent + len - 1 = exponent + (len - 1 : ℕ) by omega, zpow_add₀ (by norm_num),
      zpow_natCast, mul_comm]
    gcongr
    exact_mod_cast hleast
  · rw [zpow_add₀ (by norm_num), zpow_natCast, mul_comm]
    gcongr
    exact_mod_cast hmost

/-- Three twos are less than a ten. -/
theorem two_zpow_lt_ten_zpow {a b : Int} (h : a ≤ 3 * b) (hb : 0 < b) : (2 : ℚ) ^ a < 10 ^ b := by
  calc (2 : ℚ) ^ a ≤ 2 ^ (3 * b) := zpow_le_zpow_right₀ one_le_two h
    _ = (2 ^ (3 : Int)) ^ b := zpow_mul _ _ _
    _ < 10 ^ b := zpow_lt_zpow_left₀ hb (by norm_num) (by norm_num)

/-- The exponents of ten that are not looked at lie beyond the range on either side. -/
theorem ten_zpow_bounds :
    (10 : ℚ) ^ (-401 : Int) < 2 ^ (-1075 : Int) ∧ overflow < 10 ^ (400 : Int) := by
  constructor
  · calc (10 : ℚ) ^ (-401 : Int) = (10 ^ (401 : Int))⁻¹ := zpow_neg _ _
      _ < (2 ^ (1075 : Int))⁻¹ :=
        inv_strictAnti₀ (by positivity) (two_zpow_lt_ten_zpow (by norm_num) (by norm_num))
      _ = 2 ^ (-1075 : Int) := (zpow_neg _ _).symm
  · calc overflow ≤ 2 ^ (53 : Int) * 2 ^ (971 : Int) :=
          mul_le_mul_of_nonneg_right (by norm_num) (by positivity)
      _ = 2 ^ (1024 : Int) := by rw [← zpow_add₀ two_ne_zero]; rfl
      _ < 10 ^ (400 : Int) := two_zpow_lt_ten_zpow (by norm_num) (by norm_num)

/-- **A decimal is read as what covers it**, be it zero, a number or beyond the range. -/
theorem nearest_eq_ofParts (hf : Fitting m e) (hq : Covers m e (digits * 10 ^ exponent)) :
    nearest digits exponent = ofParts m e := by
  rcases Nat.eq_zero_or_pos digits with rfl | hpos
  · have hm : m = 0 := hq.eq_zero hf (by rw [Nat.cast_zero, zero_mul]; positivity)
    rw [hm, ofParts_zero]
    rfl
  have hlen : 0 < (toString digits).length := Nat.toString_eq_repr ▸ Nat.length_repr_pos
  have hlog : (toString digits).length - 1 ≤ digits.log2 := by
    rw [Nat.le_log2 hpos.ne']
    exact (Nat.pow_le_pow_left (by decide) _).trans (pow_length_le hpos).1
  obtain ⟨habove, hbelow⟩ := ten_zpow_le hpos exponent
  unfold nearest
  generalize (toString digits).length = len at *
  obtain ⟨hlow, hhigh⟩ := ten_zpow_bounds
  dsimp only
  split_ifs with hsmall hlarge
  · simp only [Bool.or_eq_true, decide_eq_true_eq] at hsmall
    have hmono : (10 : ℚ) ^ (exponent + len) ≤ 10 ^ (-401 : Int) :=
      zpow_le_zpow_right₀ (by norm_num) (by omega)
    rw [hq.eq_zero hf (hbelow.trans (hmono.trans_lt hlow)), ofParts_zero]
  · have hmono : (10 : ℚ) ^ (400 : Int) ≤ 10 ^ (exponent + len - 1) :=
      zpow_le_zpow_right₀ (by norm_num) (by omega)
    have he : 971 < e := by
      by_contra! he
      exact absurd ((hq.le_most_iff hf).mp he) (not_lt.mpr (hhigh.le.trans (hmono.trans habove)))
    have hm : 2 ^ 52 ≤ m := hf.normal.resolve_right (by omega)
    exact (ofParts_of_lt (by omega) he).symm
  · simp only [Bool.or_eq_true, decide_eq_true_eq, not_or] at hsmall
    by_cases hshort : digits < 2 ^ 53 ∧ exponent.natAbs ≤ 22
    · exact ofScientific_of_short hf hq hpos hshort
    · rw [Float.ofScientific, dif_neg hshort]
      have he : (if decide (exponent < 0) = true then Int.negOfNat exponent.natAbs
          else Int.ofNat exponent.natAbs) = exponent := by
        simp only [decide_eq_true_eq, Int.negOfNat_eq, Int.ofNat_eq_natCast]
        split_ifs <;> omega
      simp only [he]
      exact ofScientific_of_long hf hq hpos (by omega) (by omega)

/-- **A decimal is read as the number that covers it.** -/
theorem nearest_eq (hc : Canonical m e) (hx : unpacked x = .finite .positive m e hc.pos)
    (hq : Covers m e (digits * 10 ^ exponent)) : nearest digits exponent = x := by
  rw [nearest_eq_ofParts hc.fitting hq, eq_ofParts hc hx]

end scientific

end Decimal

end RecordFormula
