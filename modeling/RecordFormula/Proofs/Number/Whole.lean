import RecordFormula.Proofs.Decimal.Nearest

/-!
# Whole numbers

What becomes of a whole number that is turned into a number.

* `exists_unpacked_ofNat` — below `2 ^ 53` it is exact.
* **Below `2 ^ 64` it is finite** (`isFinite_ofNat`, `isFinite_ofInt`).
* **Rounding to a whole number is done once** (`round_round`).
-/

namespace RecordFormula

namespace Number

open Float.Model (UnpackedFloat)
open Float.Model.UnpackedFloat (Sign)

/-! ### From whole numbers -/

section fromWhole

variable {n m : Nat} {e : Int}

/-- A whole number becomes the number that covers it. -/
theorem ofNat_eq {x : Float} (hc : Canonical m e) (hx : unpacked x = .finite .positive m e hc.pos)
    (hq : Covers m e n) : Float.ofNat n = x := by
  have hpos : 0 < n := by exact_mod_cast hq.pos hc
  have hq' : Covers m e (n * 10 ^ (0 : Int)) := by simpa using hq
  rw [eq_ofParts hc hx]
  by_cases hshort : n < 2 ^ 53
  · exact Decimal.ofScientific_of_short hc.fitting hq' hpos ⟨hshort, by decide⟩
  · have hlong : Float.ofNat n = .ofModel (.ofScientific n 0) := dif_neg fun h => hshort h.1
    rw [hlong]
    exact Decimal.ofScientific_of_long hc.fitting hq' hpos (by decide) (by omega)

/-- A whole number below `2 ^ 53` becomes a number of the same value. -/
theorem exists_unpacked_ofNat (hpos : 0 < n) (hlt : n < 2 ^ 53) :
    ∃ m e, ∃ hc : Canonical m e, unpacked (Float.ofNat n) = .finite .positive m e hc.pos ∧
      (m : ℚ) * 2 ^ e = n := by
  obtain ⟨m, e, hc, hx, -, hval⟩ := Decimal.exists_unpacked_toFloat hpos hlt
  refine ⟨m, e, hc, ?_, hval⟩
  rw [ofNat_eq hc hx (hval ▸ Decimal.covers_self), hx]

/-- A whole number below `2 ^ 64` becomes a finite number. -/
theorem isFinite_ofNat (h : n < 2 ^ 64) : isFinite (Float.ofNat n) := by
  rcases Nat.eq_zero_or_pos n with rfl | hpos
  · rfl
  obtain ⟨m, e, hf, hq⟩ := exists_covers (q := n) (by positivity)
  have hlow : (2 : ℚ) ^ (-1075 : Int) < n :=
    (zpow_lt_one_of_neg₀ one_lt_two (by norm_num)).trans_le (by exact_mod_cast hpos)
  have hhigh : (n : ℚ) < overflow := by
    calc (n : ℚ) < 2 ^ (64 : Int) := by exact_mod_cast h
      _ ≤ 2 ^ (971 : Int) := zpow_le_zpow_right₀ one_le_two (by norm_num)
      _ ≤ overflow := le_mul_of_one_le_left (by positivity) (by norm_num)
  have hc := hq.canonical hf hlow hhigh
  rw [ofNat_eq hc (unpacked_ofParts hc) hq, isFinite_iff, unpacked_ofParts hc]
  rfl

/-- The opposite of a finite number is finite. -/
theorem isFinite_neg {x : Float} (h : isFinite x) : isFinite (-x) := by
  rw [isFinite_iff] at h ⊢
  rw [unpacked_neg]
  cases hx : unpacked x <;> rw [hx] at h <;> exact h

/-- An integer of 64 bits becomes a finite number. -/
theorem isFinite_ofInt {i : Int} (hlow : -2 ^ 64 < i) (hhigh : i < 2 ^ 64) :
    isFinite (Float.ofInt i) := by
  cases i with
  | ofNat n => exact isFinite_ofNat (Int.ofNat_lt.mp hhigh)
  | negSucc n => exact isFinite_neg (isFinite_ofNat (by omega))

end fromWhole

/-! ### To whole numbers -/

section toWhole

variable {x : Float} {s : Sign} {m n : Nat} {e : Int}

/-- The size of zero. -/
theorem mantissa_of_zero (h : unpacked x = .zero s) : (magnitude x).mantissa = 0 := by
  rw [unpacked_eq] at h
  split_ifs at h with _ _ hm
  exact hm

/-- Rounding leaves zero alone. -/
theorem round_of_zero (h : unpacked x = .zero s) : round x = x := by
  have hwhole : (magnitude x).isWhole = true := by
    simp [Magnitude.isWhole, mantissa_of_zero h]
  simp [round, hwhole]

/-- Rounding leaves a number alone that is whole. -/
theorem round_of_whole {hm : 0 < m} (h : unpacked x = .finite s m e hm)
    (hval : (m : ℚ) * 2 ^ e = n) : round x = x := by
  obtain ⟨-, hmag, -⟩ := of_unpacked_finite h
  have hwhole : m * 2 ^ e.toNat = n * 2 ^ (-e).toNat := by
    rw [Decimal.zpow_eq_div, mul_div_assoc', div_eq_iff (by positivity)] at hval
    exact_mod_cast hval
  have hdvd : (magnitude x).isWhole = true := by
    simp [hmag, Magnitude.isWhole, hwhole]
  simp [round, hdvd]

/-- The whole number nearest to a size with a fraction is not too large to be exact. -/
theorem Magnitude.nearest_lt {d : Magnitude} (h : d.isWhole = false)
    (hlt : d.mantissa < 2 ^ 53) : d.nearest < 2 ^ 53 := by
  obtain ⟨m, e⟩ := d
  have he : e < 0 := by
    by_contra! he
    have hzero : (-e).toNat = 0 := by omega
    simp [Magnitude.isWhole, hzero, Nat.mod_one] at h
  have hzero : e.toNat = 0 := by omega
  have hP : 0 < 2 ^ (-e).toNat := Nat.two_pow_pos _
  simp only at hlt
  simp only [Magnitude.nearest, hzero, Nat.pow_eq, pow_zero, mul_one]
  rw [Nat.div_lt_iff_lt_mul (by omega)]
  omega

/-- Rounding leaves a small whole number alone, whatever its sign. -/
theorem round_withSignOf (x : Float) (h : n < 2 ^ 53) :
    round (withSignOf x n) = withSignOf x n := by
  rw [withSignOf]
  rcases Nat.eq_zero_or_pos n with rfl | hpos
  · split_ifs
    · exact round_of_zero (s := .negative) rfl
    · exact round_of_zero (s := .positive) rfl
  obtain ⟨m, e, hc, hx, hval⟩ := exists_unpacked_ofNat hpos h
  split_ifs
  · have hneg : unpacked (-Float.ofNat n) = .finite .negative m e hc.pos := by
      rw [unpacked_neg, hx]
      rfl
    exact round_of_whole hneg hval
  · exact round_of_whole hx hval

/-- A finite number is rounded to itself, if it is whole, or to a small whole number with its
sign. -/
theorem round_cases (hfin : isFinite x) :
    ((magnitude x).isWhole = true ∧ round x = x) ∨ ∃ n, n < 2 ^ 53 ∧ round x = withSignOf x n := by
  by_cases hwhole : (magnitude x).isWhole
  · exact .inl ⟨hwhole, by simp [round, hwhole]⟩
  · refine .inr ⟨(magnitude x).nearest,
      Magnitude.nearest_lt (by simpa using hwhole) ?_, by simp [round, hfin, hwhole]⟩
    rcases unpacked_of_isFinite hfin with hzero | ⟨hc, -⟩
    · rw [mantissa_of_zero hzero]
      norm_num
    · exact hc.lt

/-- **Rounding to a whole number is done once.** -/
theorem round_round (x : Float) : round (round x) = round x := by
  by_cases hfin : isFinite x
  · rcases round_cases hfin with ⟨-, hx⟩ | ⟨n, hn, hx⟩
    · rw [hx, hx]
    · rw [hx, round_withSignOf x hn]
  · have hx : round x = x := by simp [round, hfin]
    rw [hx, hx]

/-- A finite number is rounded to a finite number. -/
theorem isFinite_round (hfin : isFinite x) : isFinite (round x) := by
  rcases round_cases hfin with ⟨-, hx⟩ | ⟨n, hn, hx⟩
  · rwa [hx]
  · have hnat : isFinite (Float.ofNat n) := isFinite_ofNat (by omega)
    rw [hx, withSignOf]
    split_ifs
    · exact isFinite_neg hnat
    · exact hnat

end toWhole

end Number

end RecordFormula
