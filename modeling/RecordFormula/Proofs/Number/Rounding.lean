import RecordFormula.Proofs.Number.Parts

/-!
# Rounding

Products and quotients are computed to some whole number of units and then rounded. Here the values
are rational numbers, and a number is known by the values that round to it.

* `Between` — where a value lies between a whole number and the next; shifting halves both
  (`Between.shiftRight`), and rounding chooses the nearer one (`Between.round_eq`).
* `Covers m e q` — the value `q` rounds to `m * 2 ^ e`: it is not further away than half the gap to
  the next number on either side, and a tie goes to the even mantissa.
* **A value rounds to what covers it** (`roundWithAccuracy_sized`), be it zero, beyond the range or a
  number (`roundWithAccuracy_eq`).
* **Products and quotients are rounded correctly** (`mul_sized`, `div_sized`).
-/

namespace RecordFormula

namespace Number

open Float.Model (Format UnpackedFloat totalExponent)
open Float.Model.UnpackedFloat (Sign Accuracy ExtendedMantissa roundWithAccuracy)

/-! ### Between two whole numbers -/

section between

/-- Where a value lies between a whole number and the next. -/
def Between (r : ℚ) (n : Nat) : Accuracy → Prop
  | .exact => r = n
  | .inexact .lt => n < r ∧ r < n + 1 / 2
  | .inexact .eq => r = n + 1 / 2
  | .inexact .gt => n + 1 / 2 < r ∧ r < n + 1

variable {r : ℚ} {n : Nat} {a : Accuracy}

/-- A value is not below the whole number. -/
theorem Between.le (h : Between r n a) : n ≤ r := by
  rcases a with _ | _ | _ | _ <;> simp only [Between] at h <;> linarith

/-- A value is below the next whole number. -/
theorem Between.lt (h : Between r n a) : r < n + 1 := by
  rcases a with _ | _ | _ | _ <;> simp only [Between] at h <;> linarith

/-- Half of a value lies where the shifted mantissa says. -/
theorem Between.shiftRightOne {em : ExtendedMantissa} (h : Between r em.mantissa em.accuracy) :
    Between (r / 2) em.shiftRightOne.mantissa em.shiftRightOne.accuracy := by
  obtain ⟨m, round, sticky⟩ := em
  have hm : (m : ℚ) = 2 * (m / 2 : ℕ) + (m % 2 : ℕ) := by
    exact_mod_cast (Nat.div_add_mod m 2).symm
  have hodd : (1 != 0) = true := rfl
  rcases Nat.mod_two_eq_zero_or_one m with h2 | h2 <;> rw [h2] at hm <;> push_cast at hm <;>
    cases round <;> cases sticky <;>
    simp only [ExtendedMantissa.shiftRightOne, ExtendedMantissa.accuracy, Between, h2, hodd,
      bne_self_eq_false, Bool.or_false, Bool.or_true] at h ⊢ <;>
    first
      | linarith
      | constructor <;> linarith

/-- A value divided by a power of two lies where the shifted mantissa says. -/
theorem Between.shiftRight {em : ExtendedMantissa} (h : Between r em.mantissa em.accuracy)
    (k : Nat) : Between (r / 2 ^ k) (em >>> k).mantissa (em >>> k).accuracy := by
  induction k with
  | zero =>
    rw [pow_zero, div_one]
    exact h
  | succ k ih =>
    have hk : em >>> (k + 1) = (em >>> k).shiftRightOne := rfl
    rw [hk, pow_succ, ← div_div]
    exact ih.shiftRightOne

/-- A mantissa with its residual bits says what the mantissa and the accuracy say. -/
theorem between_ofMantissaAndAccuracy :
    Between r (ExtendedMantissa.ofMantissaAndAccuracy n a).mantissa
      (ExtendedMantissa.ofMantissaAndAccuracy n a).accuracy ↔ Between r n a := by
  rcases a with _ | _ | _ | _ <;> rfl

/-- Rounding chooses the nearest whole number, in a tie the even one. -/
theorem Between.round_eq (h : Between r n a) {m : Nat}
    (hm : (m - 1 / 2 < r ∧ r < m + 1 / 2) ∨ (m % 2 = 0 ∧ m - 1 / 2 ≤ r ∧ r ≤ m + 1 / 2)) :
    a.roundToNearestEven n = m := by
  have hle := h.le
  have hlt := h.lt
  have hn : n = m ∨ n + 1 = m := by
    have h₁ : (n : ℚ) < m + 1 := by rcases hm with hm | hm <;> linarith
    have h₂ : (m : ℚ) < n + 2 := by rcases hm with hm | hm <;> linarith
    have h₁' : n < m + 1 := by exact_mod_cast h₁
    have h₂' : m < n + 2 := by exact_mod_cast h₂
    omega
  -- a tie is only won by the even one
  have htie : ∀ k : ℚ, (k = 1 / 2 ∨ k = -1 / 2) → r = m + k → m % 2 = 0 := by
    rintro k hk rfl
    rcases hm with ⟨h₁, h₂⟩ | ⟨hm, -, -⟩
    · rcases hk with rfl | rfl <;> linarith
    · exact hm
  rcases hn with rfl | rfl
  · rcases a with _ | _ | _ | _ <;> simp only [Between] at h <;>
      simp only [Accuracy.roundToNearestEven]
    · have := htie (1 / 2) (.inl rfl) h
      omega
    · rcases hm with hm | hm <;> linarith
  · push_cast at hm htie
    rcases a with _ | _ | _ | _ <;> simp only [Between] at h <;>
      simp only [Accuracy.roundToNearestEven]
    · rcases hm with hm | hm <;> linarith
    · rcases hm with hm | hm <;> linarith
    · have := htie (-1 / 2) (.inr rfl) (by linarith)
      omega

end between

/-! ### The values that round to a number -/

section rounding

/-- How far below a number the values are that round to it, in units of its exponent: half the gap
to the next number, and that gap is half as wide where the exponent steps. -/
def lowerReach (m : Nat) (e : Int) : ℚ := if m = 2 ^ 52 ∧ e ≠ -1074 then 1 / 4 else 1 / 2

/-- It is at most half a gap. -/
theorem lowerReach_le (m : Nat) (e : Int) : lowerReach m e ≤ 1 / 2 := by
  unfold lowerReach
  split_ifs <;> norm_num

/-- The value rounds to `m * 2 ^ e`. -/
def Covers (m : Nat) (e : Int) (q : ℚ) : Prop :=
  (((m : ℚ) - lowerReach m e) * 2 ^ e < q ∧ q < (m + 1 / 2) * 2 ^ e) ∨
    (m % 2 = 0 ∧ ((m : ℚ) - lowerReach m e) * 2 ^ e ≤ q ∧ q ≤ (m + 1 / 2) * 2 ^ e)

variable {m M : Nat} {e E t : Int} {q : ℚ} {a : Accuracy}

/-- The exponent that a mantissa of 53 bits needs. -/
theorem targetExponent_eq (M : Nat) (E : Int) :
    Format.binary64.targetExponent (totalExponent M E) = max ((M.log2 : Int) + E - 52) (-1074) := by
  have hmin : Format.binary64.minExponent = -1074 := rfl
  have hbits : Format.binary64.mantissaBits = 53 := rfl
  rw [Format.targetExponent, totalExponent, hmin, hbits]
  push_cast
  congr 1
  omega

/-- A number has the exponent that its mantissa needs. -/
theorem Fitting.targetExponent_eq (h : Fitting m e) :
    Format.binary64.targetExponent (totalExponent m e) = e := by
  obtain ⟨hlt, hle, hnorm⟩ := h
  have hlog : m.log2 < 53 := by
    rcases Nat.eq_zero_or_pos m with rfl | hpos
    · decide
    · exact (Nat.log2_lt hpos.ne').mpr hlt
  rw [Number.targetExponent_eq]
  rcases hnorm with hm | rfl
  · have : 52 ≤ m.log2 := (Nat.le_log2 (by omega)).mpr hm
    omega
  · omega

/-- A value that is a number of units of `2 ^ t` which a mantissa can hold, and no shorter one. -/
structure Normalized (q : ℚ) (t : Int) : Prop where
  /-- The exponent is not below the range. -/
  least : -1074 ≤ t
  /-- The mantissa is not too long. -/
  lt : q < 2 ^ (t + 53)
  /-- The mantissa is not too short. -/
  normal : t = -1074 ∨ 2 ^ (t + 52) ≤ q

/-- The value that a long mantissa is close to, in units of the exponent that it needs. -/
theorem Between.normalized (h : Between (q / 2 ^ E) M a) (hE : 2 ^ 52 ≤ M ∨ E ≤ -1074) :
    Normalized q (max ((M.log2 : Int) + E - 52) (-1074)) := by
  have hpow : (0 : ℚ) < 2 ^ E := by positivity
  have hle : M * 2 ^ E ≤ q := (le_div_iff₀ hpow).mp h.le
  have hlt : q < (M + 1) * 2 ^ E := (div_lt_iff₀ hpow).mp h.lt
  have hlog : ((M : ℚ) + 1) ≤ 2 ^ (M.log2 + 1) := by exact_mod_cast Nat.lt_log2_self
  refine ⟨by omega, ?_, ?_⟩
  · calc q < (M + 1) * 2 ^ E := hlt
      _ ≤ 2 ^ (M.log2 + 1) * 2 ^ E := mul_le_mul_of_nonneg_right hlog hpow.le
      _ = 2 ^ ((M.log2 : Int) + 1 + E) := by
        rw [zpow_add₀ two_ne_zero, ← zpow_natCast]
        push_cast
        rfl
      _ ≤ 2 ^ (max ((M.log2 : Int) + E - 52) (-1074) + 53) :=
        zpow_le_zpow_right₀ one_le_two (by omega)
  · by_cases hM : M = 0
    · subst hM
      left
      simp only [Nat.log2_zero]
      omega
    rcases le_total ((M.log2 : Int) + E - 52) (-1074) with hmax | hmax
    · exact .inl (max_eq_right hmax)
    · right
      have hself : (2 : ℚ) ^ M.log2 ≤ M := by exact_mod_cast Nat.log2_self_le hM
      calc (2 : ℚ) ^ (max ((M.log2 : Int) + E - 52) (-1074) + 52) = 2 ^ ((M.log2 : Int) + E) := by
            rw [max_eq_left hmax]
            congr 1
            omega
        _ = 2 ^ M.log2 * 2 ^ E := by rw [zpow_add₀ two_ne_zero, zpow_natCast]
        _ ≤ M * 2 ^ E := mul_le_mul_of_nonneg_right hself hpow.le
        _ ≤ q := hle

/-- The value is not further below the number than it reaches. -/
theorem Covers.low (h : Covers m e q) : ((m : ℚ) - lowerReach m e) * 2 ^ e ≤ q := by
  rcases h with ⟨h, -⟩ | ⟨-, h, -⟩
  · exact h.le
  · exact h

/-- The value is not further above the number than half the gap. -/
theorem Covers.high (h : Covers m e q) : q ≤ (m + 1 / 2) * 2 ^ e := by
  rcases h with ⟨-, h⟩ | ⟨-, -, h⟩
  · exact h.le
  · exact h

/-- A value that rounds to a number is positive. -/
theorem Covers.pos (hc : Canonical m e) (h : Covers m e q) : 0 < q := by
  have hm : (1 : ℚ) ≤ m := by exact_mod_cast hc.pos
  refine lt_of_lt_of_le ?_ h.low
  have : (0 : ℚ) < m - lowerReach m e := by linarith [lowerReach_le m e]
  positivity

/-- A value has the exponent of the number that it rounds to. Only a value just below the least
number of an exponent may have the exponent before. -/
theorem Covers.exponent (h : Covers m e q) (hc : Fitting m e) (ht : Normalized q t) :
    t = e ∨ (t + 1 = e ∧ m = 2 ^ 52 ∧ e ≠ -1074) := by
  have hpow : (0 : ℚ) < 2 ^ e := by positivity
  have hshift : ∀ k : Nat, (2 : ℚ) ^ (e + k) = 2 ^ k * 2 ^ e := fun k => by
    rw [zpow_add₀ two_ne_zero, zpow_natCast, mul_comm]
  have hm : (m : ℚ) + 1 / 2 < 2 ^ 53 := by
    have : (m : ℚ) + 1 ≤ 2 ^ 53 := by exact_mod_cast hc.lt
    linarith
  have hle : t ≤ e := by
    by_contra! hlt
    rcases ht.normal with rfl | hnorm
    · exact absurd hc.least (by omega)
    · have hmono : (2 : ℚ) ^ (e + 53 : Int) ≤ 2 ^ (t + 52) :=
        zpow_le_zpow_right₀ one_le_two (by omega)
      have hstep := hshift 53
      push_cast at hstep
      have := mul_lt_mul_of_pos_right hm hpow
      linarith [h.high]
  rcases hle.lt_or_eq with hlt | heq
  · right
    have hne : e ≠ -1074 := by
      have := ht.least
      omega
    have hnorm : 2 ^ 52 ≤ m := hc.normal.resolve_right hne
    have hm52 : m = 2 ^ 52 := by
      by_contra hm'
      have hreach : lowerReach m e = 1 / 2 := if_neg fun hh => hm' hh.1
      have hbig : (2 : ℚ) ^ 52 + 1 ≤ m := by exact_mod_cast lt_of_le_of_ne hnorm (Ne.symm hm')
      have hmono : (2 : ℚ) ^ (t + 53) ≤ 2 ^ (e + 52 : Int) :=
        zpow_le_zpow_right₀ one_le_two (by omega)
      have hstep := hshift 52
      push_cast at hstep
      have hlow := h.low
      rw [hreach] at hlow
      have := mul_lt_mul_of_pos_right (show (2 : ℚ) ^ 52 < m - 1 / 2 by linarith) hpow
      linarith [ht.lt]
    refine ⟨?_, hm52, hne⟩
    by_contra hgap
    have hreach : lowerReach m e = 1 / 4 := if_pos ⟨hm52, hne⟩
    have hmono : (2 : ℚ) ^ (t + 53) ≤ 2 ^ (e + 51 : Int) :=
      zpow_le_zpow_right₀ one_le_two (by omega)
    have hstep := hshift 51
    push_cast at hstep
    have hlow := h.low
    rw [hreach, hm52] at hlow
    push_cast at hlow
    have := mul_lt_mul_of_pos_right
      (show (2 : ℚ) ^ 51 < (2 : ℚ) ^ 52 - 1 / 4 by norm_num) hpow
    linarith [ht.lt]
  · exact .inl heq

/-- A mantissa that is at its exponent stays there. -/
theorem shiftToTargetExponent_exact {R : Nat} {k : Nat}
    (h : Format.binary64.targetExponent (totalExponent R t) = t + k) :
    UnpackedFloat.shiftToTargetExponent Format.binary64 R t .exact =
      (ExtendedMantissa.mk R false false >>> k, t + k) := by
  rw [UnpackedFloat.shiftToTargetExponent, UnpackedFloat.shiftToExponent, h]
  have hk : (t + (k : Int) - t).toNat = k := by omega
  simp only [hk]
  rfl

/-- **A value rounds to what covers it**, if it is known to enough bits. -/
theorem roundWithAccuracy_sized (hc : Fitting m e) (hq : Covers m e q)
    (hb : Between (q / 2 ^ E) M a) (hE : 2 ^ 52 ≤ M ∨ E ≤ -1074) (s : Sign) :
    roundWithAccuracy Format.binary64 s M E a = sized s m e := by
  have ht := hb.normalized hE
  have htarget := targetExponent_eq M E
  set t := max ((M.log2 : Int) + E - 52) (-1074) with hteq
  have hEt : E ≤ t := by
    rcases hE with hM | hE
    · have : 52 ≤ M.log2 := (Nat.le_log2 (by omega)).mpr hM
      omega
    · omega
  obtain ⟨k, hk⟩ := Int.le.dest hEt
  have hkt : (t - E).toNat = k := by omega
  -- the value in units of its own exponent
  have hfirst := (between_ofMantissaAndAccuracy.mpr hb).shiftRight k
  have hval : q / 2 ^ E / 2 ^ k = q / 2 ^ t := by
    rw [div_div, ← hk, zpow_add₀ two_ne_zero, zpow_natCast]
  rw [hval] at hfirst
  rw [roundWithAccuracy, UnpackedFloat.shiftToTargetExponent, htarget,
    UnpackedFloat.shiftToExponent, hkt]
  simp only [hk]
  generalize ExtendedMantissa.ofMantissaAndAccuracy M a >>> k = em at hfirst
  rcases hq.exponent hc ht with heq | ⟨hte, hm, hne⟩
  · have hpow : (0 : ℚ) < 2 ^ e := by positivity
    have hround : em.roundedMantissa = m := by
      refine hfirst.round_eq ?_
      rw [heq, lt_div_iff₀ hpow, div_lt_iff₀ hpow, le_div_iff₀ hpow, div_le_iff₀ hpow]
      have hreach : ((m : ℚ) - 1 / 2) * 2 ^ e ≤ (m - lowerReach m e) * 2 ^ e :=
        mul_le_mul_of_nonneg_right (by linarith [lowerReach_le m e]) hpow.le
      rcases hq with ⟨h₁, h₂⟩ | ⟨heven, h₁, h₂⟩
      · exact .inl ⟨hreach.trans_lt h₁, h₂⟩
      · exact .inr ⟨heven, hreach.trans h₁, h₂⟩
    have hstay := shiftToTargetExponent_exact (R := m) (t := e) (k := 0)
      (by rw [hc.targetExponent_eq]; simp)
    simp only [hround, heq, hstay, Nat.cast_zero, Int.add_zero]
    rfl
  · -- rounding gives one bit too many
    have hpow : (0 : ℚ) < 2 ^ t := by positivity
    have hround : em.roundedMantissa = 2 ^ 53 := by
      refine hfirst.round_eq (.inr ⟨by norm_num, ?_, ?_⟩)
      · rw [le_div_iff₀ hpow]
        have hlow := hq.low
        rw [lowerReach, if_pos ⟨hm, hne⟩, hm, ← hte, zpow_add_one₀ two_ne_zero] at hlow
        push_cast at hlow ⊢
        linarith
      · rw [div_le_iff₀ hpow]
        have hlt := ht.lt
        rw [zpow_add₀ two_ne_zero] at hlt
        push_cast
        norm_num at hlt ⊢
        linarith
    have hstay := shiftToTargetExponent_exact (R := 2 ^ 53) (t := t) (k := 1) (by
      rw [targetExponent_eq, Nat.log2_two_pow]
      have := ht.least
      push_cast
      omega)
    simp only [hround, hstay, Nat.cast_one, hte, hm]
    rfl

/-- **A value rounds to the number that covers it**, if it is known to enough bits. -/
theorem roundWithAccuracy_eq (hc : Canonical m e) (hq : Covers m e q)
    (hb : Between (q / 2 ^ E) M a) (hE : 2 ^ 52 ≤ M ∨ E ≤ -1074) (s : Sign) :
    roundWithAccuracy Format.binary64 s M E a = .finite s m e hc.pos := by
  rw [roundWithAccuracy_sized hc.fitting hq hb hE, sized_of_pos hc.pos]

end rounding

/-! ### Products and quotients -/

section arithmetic

variable {m m₁ m₂ : Nat} {e e₁ e₂ : Int}

/-- A product rounds to what covers it, if the factors have enough bits. -/
theorem mul_sized (hc : Fitting m e) (h₁ : 0 < m₁) (h₂ : 0 < m₂)
    (hq : Covers m e (m₁ * 2 ^ e₁ * (m₂ * 2 ^ e₂))) (hlong : 2 ^ 52 ≤ m₁ * m₂) (s₁ s₂ : Sign) :
    UnpackedFloat.mul Format.binary64 (.finite s₁ m₁ e₁ h₁) (.finite s₂ m₂ e₂ h₂) =
      sized (s₁ * s₂) m e := by
  refine roundWithAccuracy_sized hc hq ?_ (.inl hlong) _
  have hpow : (2 : ℚ) ^ (e₁ + e₂) ≠ 0 := by positivity
  rw [Between, div_eq_iff hpow, zpow_add₀ two_ne_zero]
  push_cast
  ring

/-- A product rounds to the number that covers it, if the factors have enough bits. -/
theorem mul_eq (hc : Canonical m e) (h₁ : 0 < m₁) (h₂ : 0 < m₂)
    (hq : Covers m e (m₁ * 2 ^ e₁ * (m₂ * 2 ^ e₂))) (hlong : 2 ^ 52 ≤ m₁ * m₂) (s₁ s₂ : Sign) :
    UnpackedFloat.mul Format.binary64 (.finite s₁ m₁ e₁ h₁) (.finite s₂ m₂ e₂ h₂) =
      .finite (s₁ * s₂) m e hc.pos := by
  rw [mul_sized hc.fitting h₁ h₂ hq hlong, sized_of_pos hc.pos]

/-- A quotient of whole numbers lies where its remainder says. -/
theorem between_quotient (n : Nat) {d : Nat} (hd : 0 < d) :
    Between ((n : ℚ) / d) (n / d) (UnpackedFloat.accuracyOfFraction (n % d) d) := by
  have hd' : (0 : ℚ) < d := by exact_mod_cast hd
  have hn : (n : ℚ) / d = (n / d : ℕ) + (n % d : ℕ) / d := by
    rw [eq_comm, ← mul_right_inj' hd'.ne', mul_add, mul_div_cancel₀ _ hd'.ne',
      mul_div_cancel₀ _ hd'.ne']
    exact_mod_cast Nat.div_add_mod n d
  have hlt : ((n % d : ℕ) : ℚ) < d := by exact_mod_cast Nat.mod_lt n hd
  generalize n % d = r at *
  rw [hn]
  unfold UnpackedFloat.accuracyOfFraction
  split_ifs with hr
  · simp [Between, hr]
  · have hr' : (0 : ℚ) < r := by exact_mod_cast Nat.pos_of_ne_zero hr
    have hpos : (0 : ℚ) < r / d := by positivity
    rcases hcmp : compare (2 * r) d with _ | _ | _ <;> simp only [Between]
    · rw [Nat.compare_eq_lt] at hcmp
      have : (2 * r : ℚ) < d := by exact_mod_cast hcmp
      have : (r : ℚ) / d < 1 / 2 := by rw [div_lt_iff₀ hd']; linarith
      constructor <;> linarith
    · rw [Nat.compare_eq_eq] at hcmp
      have : (2 * r : ℚ) = d := by exact_mod_cast hcmp
      rw [← this]
      field_simp
    · rw [Nat.compare_eq_gt] at hcmp
      have : (d : ℚ) < 2 * r := by exact_mod_cast hcmp
      have : (1 : ℚ) / 2 < r / d := by rw [lt_div_iff₀ hd']; linarith
      have : (r : ℚ) / d < 1 := by rw [div_lt_iff₀ hd']; linarith
      constructor <;> linarith

/-- A quotient rounds to what covers it. -/
theorem div_sized (hc : Fitting m e) (h₁ : 0 < m₁) (h₂ : 0 < m₂)
    (hq : Covers m e (m₁ * 2 ^ e₁ / (m₂ * 2 ^ e₂))) (s₁ s₂ : Sign) :
    UnpackedFloat.div Format.binary64 (.finite s₁ m₁ e₁ h₁) (.finite s₂ m₂ e₂ h₂) =
      sized (s₁ / s₂) m e := by
  have htarget : Format.binary64.targetExponent (totalExponent m₁ e₁ - totalExponent m₂ e₂) =
      max ((m₁.log2 : Int) + e₁ - (m₂.log2 + e₂) - 53) (-1074) := by
    have hmin : Format.binary64.minExponent = -1074 := rfl
    have hbits : Format.binary64.mantissaBits = 53 := rfl
    rw [Format.targetExponent, totalExponent, totalExponent, hmin, hbits]
    push_cast
    congr 1
    omega
  rw [UnpackedFloat.div, UnpackedFloat.divCore, htarget]
  set t := min (e₁ - e₂) (max ((m₁.log2 : Int) + e₁ - (m₂.log2 + e₂) - 53) (-1074)) with ht
  obtain ⟨k, hk⟩ : ∃ k : Nat, t + k = e₁ - e₂ := Int.le.dest (by omega)
  have hkt : (e₁ - e₂ - t).toNat = k := by omega
  simp only [hkt, Nat.shiftLeft_eq]
  refine roundWithAccuracy_sized hc hq ?_ ?_ _
  · have hval : (m₁ : ℚ) * 2 ^ e₁ / (m₂ * 2 ^ e₂) / 2 ^ t = ((m₁ * 2 ^ k : ℕ) : ℚ) / m₂ := by
      have he : e₁ = t + k + e₂ := by omega
      have hm : (m₂ : ℚ) ≠ 0 := by exact_mod_cast h₂.ne'
      rw [he, zpow_add₀ two_ne_zero, zpow_add₀ two_ne_zero, zpow_natCast]
      push_cast
      field_simp
    rw [hval]
    exact between_quotient _ h₂
  · -- the dividend is so many bits longer than the divisor as the quotient needs
    by_cases hle : t ≤ -1074
    · exact .inr hle
    left
    have hlog : m₂.log2 + 1 + 52 ≤ m₁.log2 + k := by omega
    rw [Nat.le_div_iff_mul_le h₂]
    calc 2 ^ 52 * m₂ ≤ 2 ^ 52 * 2 ^ (m₂.log2 + 1) := Nat.mul_le_mul_left _ Nat.lt_log2_self.le
      _ = 2 ^ (m₂.log2 + 1 + 52) := by rw [mul_comm, ← pow_add]
      _ ≤ 2 ^ (m₁.log2 + k) := Nat.pow_le_pow_right (by decide) hlog
      _ = 2 ^ m₁.log2 * 2 ^ k := pow_add ..
      _ ≤ m₁ * 2 ^ k := Nat.mul_le_mul_right _ (Nat.log2_self_le h₁.ne')

/-- A quotient rounds to the number that covers it. -/
theorem div_eq (hc : Canonical m e) (h₁ : 0 < m₁) (h₂ : 0 < m₂)
    (hq : Covers m e (m₁ * 2 ^ e₁ / (m₂ * 2 ^ e₂))) (s₁ s₂ : Sign) :
    UnpackedFloat.div Format.binary64 (.finite s₁ m₁ e₁ h₁) (.finite s₂ m₂ e₂ h₂) =
      .finite (s₁ / s₂) m e hc.pos := by
  rw [div_sized hc.fitting h₁ h₂ hq, sized_of_pos hc.pos]

end arithmetic

end Number

end RecordFormula
