import RecordFormula.Proofs.Number.Rounding

/-!
# Every value rounds to something

No value lies between the reaches of two neighbours, so each one is covered. Which values lead to
zero, and which ones beyond the range, can be told from their size.

* `Number.exists_covers` — **every value is covered by a mantissa and an exponent**: the exponent
  that leaves 53 bits before the point, and the nearer of the two mantissas.
* `Number.overflow` — the value from which on numbers are infinite (`Covers.le_most_iff`).
* **Between the two ends of the range a value rounds to a number** (`Covers.canonical`).
-/

namespace RecordFormula

namespace Number

/-! ### The nearer of two neighbours -/

section neighbours

variable {m : Nat} {e : Int} {q r : ℚ}

/-- A value in the lower half of the gap above a number rounds to the number. -/
theorem covers_below (hr : 0 ≤ r) (h : 2 * r < 2 ^ e ∨ 2 * r = 2 ^ e ∧ m % 2 = 0) :
    Covers m e (m * 2 ^ e + r) := by
  have hP : (0 : ℚ) < 2 ^ e := by positivity
  have hreach : 0 < lowerReach m e * 2 ^ e := by
    unfold lowerReach
    split_ifs <;> positivity
  rcases h with h | ⟨h, heven⟩
  · exact .inl ⟨by linarith, by linarith⟩
  · exact .inr ⟨heven, by linarith, by linarith⟩

/-- A value in the upper half of the gap above a number rounds to the next number. -/
theorem covers_above (hm : 2 ^ 52 ≤ m ∨ e = -1074) (hr : r < 2 ^ e)
    (h : 2 ^ e < 2 * r ∨ 2 ^ e = 2 * r ∧ m % 2 = 1) : Covers (m + 1) e (m * 2 ^ e + r) := by
  have hP : (0 : ℚ) < 2 ^ e := by positivity
  have hreach : lowerReach (m + 1) e = 1 / 2 := if_neg fun hh => by omega
  rw [Covers, hreach]
  push_cast
  rcases h with h | ⟨h, hodd⟩
  · exact .inl ⟨by linarith, by linarith⟩
  · exact .inr ⟨by omega, by linarith, by linarith⟩

/-- A number with a mantissa of one bit too many is the first one of the next exponent. -/
theorem Covers.carry (he : -1074 ≤ e) (h : Covers (2 ^ 53) e q) : Covers (2 ^ 52) (e + 1) q := by
  have hlow := h.low
  have hhigh := h.high
  have hP : (0 : ℚ) < 2 ^ e := by positivity
  have hreach : lowerReach (2 ^ 53) e = 1 / 2 := if_neg fun hh => by simp at hh
  have hreach' : lowerReach (2 ^ 52) (e + 1) = 1 / 4 := if_pos ⟨rfl, by omega⟩
  rw [hreach] at hlow
  refine .inr ⟨by norm_num, ?_, ?_⟩ <;> rw [zpow_add_one₀ two_ne_zero]
  · rw [hreach']
    push_cast at hlow ⊢
    linarith
  · push_cast at hhigh ⊢
    linarith

/-- Every value has an exponent of its own. -/
theorem exists_normalized (hq : 0 < q) : ∃ t, Normalized q t := by
  refine ⟨max (Int.log 2 q - 52) (-1074), le_max_right _ _, ?_, ?_⟩
  · calc q < 2 ^ (Int.log 2 q + 1) := Int.lt_zpow_succ_log_self one_lt_two q
      _ ≤ 2 ^ (max (Int.log 2 q - 52) (-1074) + 53) := zpow_le_zpow_right₀ one_le_two (by omega)
  · rcases le_total (Int.log 2 q - 52) (-1074) with hmax | hmax
    · exact .inl (max_eq_right hmax)
    · right
      rw [max_eq_left hmax, Int.sub_add_cancel]
      exact Int.zpow_log_le_self one_lt_two hq

/-- **Every value is covered.** -/
theorem exists_covers (hq : 0 ≤ q) : ∃ m e, Fitting m e ∧ Covers m e q := by
  rcases hq.eq_or_lt with rfl | hpos
  · refine ⟨0, -1074, ⟨by norm_num, le_rfl, .inr rfl⟩, ?_⟩
    simpa using covers_below (m := 0) (e := -1074) le_rfl (.inl (by rw [mul_zero]; positivity))
  obtain ⟨t, hleast, hlt, hnormal⟩ := exists_normalized hpos
  have hP : (0 : ℚ) < 2 ^ t := by positivity
  have hshift : ∀ k : Nat, (2 : ℚ) ^ (t + k) = 2 ^ k * 2 ^ t := fun k => by
    rw [zpow_add₀ two_ne_zero, zpow_natCast, mul_comm]
  -- the whole units below the value, and the rest
  have hfloor := Nat.floor_le (div_nonneg hq hP.le)
  have hnext := Nat.lt_floor_add_one (q / 2 ^ t)
  have hbits : ⌊q / 2 ^ t⌋₊ < 2 ^ 53 := by
    rw [Nat.floor_lt (div_nonneg hq hP.le), div_lt_iff₀ hP]
    push_cast
    exact (hshift 53) ▸ hlt
  have hlong : 2 ^ 52 ≤ ⌊q / 2 ^ t⌋₊ ∨ t = -1074 := by
    refine hnormal.symm.imp_left fun h => Nat.le_floor ?_
    rw [le_div_iff₀ hP]
    push_cast
    exact (hshift 52) ▸ h
  generalize ⌊q / 2 ^ t⌋₊ = n at hfloor hnext hbits hlong
  rw [le_div_iff₀ hP] at hfloor
  rw [div_lt_iff₀ hP] at hnext
  obtain ⟨r, rfl⟩ : ∃ r, q = n * 2 ^ t + r := ⟨q - n * 2 ^ t, by ring⟩
  have hr : 0 ≤ r := by linarith
  have hr' : r < 2 ^ t := by linarith
  by_cases hdown : 2 * r < 2 ^ t ∨ 2 * r = 2 ^ t ∧ n % 2 = 0
  · exact ⟨n, t, ⟨hbits, hleast, hlong⟩, covers_below hr hdown⟩
  · have hup : 2 ^ t < 2 * r ∨ 2 ^ t = 2 * r ∧ n % 2 = 1 := by
      rcases lt_trichotomy (2 * r) (2 ^ t) with h | h | h
      · exact absurd (.inl h) hdown
      · exact .inr ⟨h.symm, Nat.mod_two_ne_zero.mp fun heven => hdown (.inr ⟨h, heven⟩)⟩
      · exact .inl h
    have habove := covers_above hlong hr' hup
    by_cases hshort : n + 1 < 2 ^ 53
    · exact ⟨n + 1, t, ⟨hshort, hleast, hlong.imp_left fun h => by omega⟩, habove⟩
    · rw [show n + 1 = 2 ^ 53 by omega] at habove
      exact ⟨2 ^ 52, t + 1, ⟨by norm_num, by omega, .inl le_rfl⟩, habove.carry hleast⟩

end neighbours

/-! ### The ends of the range -/

section ends

variable {m : Nat} {e : Int} {q : ℚ}

/-- Half a gap above the greatest number. Values from here on round to infinity. -/
def overflow : ℚ := (2 ^ 53 - 1 / 2) * 2 ^ (971 : Int)

/-- What rounds into the range is below the overflow. -/
theorem Covers.lt_overflow (hq : Covers m e q) (hf : Fitting m e) (he : e ≤ 971) : q < overflow := by
  have hmono : (2 : ℚ) ^ e ≤ 2 ^ (971 : Int) := zpow_le_zpow_right₀ one_le_two he
  have hbound : ∀ k : ℚ, 0 ≤ k → (m : ℚ) + 1 / 2 ≤ k →
      (m + 1 / 2) * 2 ^ e ≤ k * 2 ^ (971 : Int) :=
    fun k hk h => mul_le_mul h hmono (by positivity) hk
  rcases hq with ⟨-, h⟩ | ⟨heven, -, h⟩
  · have hm : (m : ℚ) + 1 ≤ 2 ^ 53 := by exact_mod_cast hf.lt
    exact h.trans_le (hbound _ (by norm_num) (by linarith))
  · -- the greatest mantissa is odd
    have hlt := hf.lt
    have hm : (m : ℚ) + 2 ≤ 2 ^ 53 := by exact_mod_cast (show m + 2 ≤ 2 ^ 53 by omega)
    calc q ≤ (m + 1 / 2) * 2 ^ e := h
      _ ≤ (2 ^ 53 - 3 / 2) * 2 ^ (971 : Int) := hbound _ (by norm_num) (by linarith)
      _ < overflow := mul_lt_mul_of_pos_right (by norm_num) (by positivity)

/-- What rounds beyond the range is not below the overflow. -/
theorem Covers.overflow_le (hq : Covers m e q) (hf : Fitting m e) (he : 971 < e) :
    overflow ≤ q := by
  have hm : 2 ^ 52 ≤ m := hf.normal.resolve_right (by omega)
  have hmono : (2 : ℚ) ^ (972 : Int) ≤ 2 ^ e := zpow_le_zpow_right₀ one_le_two (by omega)
  have hreach : (2 : ℚ) ^ 52 - 1 / 4 ≤ m - lowerReach m e := by
    rcases hm.eq_or_lt with rfl | hm
    · rw [lowerReach, if_pos ⟨rfl, by omega⟩]
      push_cast
      exact le_rfl
    · have hm' : (2 : ℚ) ^ 52 + 1 ≤ m := by exact_mod_cast hm
      linarith [lowerReach_le m e]
  calc overflow = (2 ^ 52 - 1 / 4) * 2 ^ (972 : Int) := by
        rw [overflow, show (972 : Int) = 971 + 1 by norm_num, zpow_add_one₀ two_ne_zero]
        ring
    _ ≤ (m - lowerReach m e) * 2 ^ e :=
      mul_le_mul hreach hmono (by positivity) (le_trans (by norm_num) hreach)
    _ ≤ q := hq.low

/-- **A value rounds into the range if it is below the overflow.** -/
theorem Covers.le_most_iff (hq : Covers m e q) (hf : Fitting m e) : e ≤ 971 ↔ q < overflow :=
  ⟨hq.lt_overflow hf, fun h => not_lt.mp fun he => absurd h (not_lt.mpr (hq.overflow_le hf he))⟩

/-- Less than half of the least number rounds to zero. -/
theorem Covers.eq_zero (hq : Covers m e q) (hf : Fitting m e) (h : q < 2 ^ (-1075 : Int)) :
    m = 0 := by
  by_contra hm
  have hm' : (1 : ℚ) ≤ m := by exact_mod_cast Nat.pos_of_ne_zero hm
  refine absurd h (not_lt.mpr ?_)
  calc (2 : ℚ) ^ (-1075 : Int) = 1 / 2 * 2 ^ (-1074 : Int) := by
        rw [show (-1075 : Int) = -1 + -1074 by norm_num, zpow_add₀ two_ne_zero]
        norm_num
    _ ≤ (m - lowerReach m e) * 2 ^ e :=
      mul_le_mul (by linarith [lowerReach_le m e]) (zpow_le_zpow_right₀ one_le_two hf.least)
        (by positivity) (by linarith [lowerReach_le m e])
    _ ≤ q := hq.low

/-- **A value between the ends of the range rounds to a number.** -/
theorem Covers.canonical (hq : Covers m e q) (hf : Fitting m e) (hlow : 2 ^ (-1075 : Int) < q)
    (hhigh : q < overflow) : Canonical m e := by
  refine ⟨Nat.pos_of_ne_zero ?_, hf.lt, hf.least, (hq.le_most_iff hf).mpr hhigh, hf.normal⟩
  rintro rfl
  obtain rfl : e = -1074 := hf.normal.resolve_left (by norm_num)
  refine absurd hlow (not_lt.mpr ?_)
  calc q ≤ ((0 : ℕ) + 1 / 2) * 2 ^ (-1074 : Int) := hq.high
    _ = 2 ^ (-1075 : Int) := by
      rw [show (-1075 : Int) = -1 + -1074 by norm_num, zpow_add₀ two_ne_zero]
      norm_num

end ends

end Number

end RecordFormula
