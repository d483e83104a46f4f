import RecordFormula.Decimal.Shortest
import RecordFormula.Proofs.Decimal.Nearest

/-!
# The shortest decimal reads as its number

Whatever the search for a short decimal finds, its value rounds to the number that is written: each
grid point is tested against the interval of the number, and the decimal that is taken when no grid
point passes is exact.

* `Decimal.value` — the value of a decimal; moving zeros into the exponent keeps it
  (`value_stripZeros`).
* **A grid point that passes the test rounds to the number** (`covers_of_readsAs`).
* **So does the shortest decimal** (`covers_shortest`).
-/

namespace RecordFormula

namespace Decimal

open Number
open Float.Model (UnpackedFloat)

/-- The value of a decimal. -/
def value (d : Decimal) : ℚ := d.digits * 10 ^ d.exponent

section shortest

variable {x : Float} {m n : Nat} {e grid : Int} {d : Decimal}

/-- Moving zeros into the exponent keeps the value. -/
theorem value_stripZeros (limit : Nat) (d : Decimal) : (stripZeros limit d).value = d.value := by
  induction limit generalizing d with
  | zero => rfl
  | succ limit ih =>
    rw [stripZeros]
    split_ifs with h
    · have hdigits : (d.digits : ℚ) = (d.digits / 10 : ℕ) * 10 := by
        exact_mod_cast (Nat.div_mul_cancel (Nat.dvd_of_mod_eq_zero h.1)).symm
      rw [ih, value, value, zpow_add_one₀ (by norm_num), hdigits]
      ring
    · rfl

/-- The decimal with all digits has the value of the size. -/
theorem value_exactly (d : Magnitude) : (exactly d).value = d.mantissa * 2 ^ d.exponent := by
  unfold exactly
  split_ifs with h
  · rw [value, zpow_eq_div 2, show (-d.exponent).toNat = 0 by omega]
    simp
  · have hten : (10 : ℚ) ^ (-d.exponent).toNat =
        5 ^ (-d.exponent).toNat * 2 ^ (-d.exponent).toNat := by
      rw [← mul_pow]
      norm_num
    rw [value, zpow_eq_div 2, zpow_eq_div 10, show d.exponent.toNat = 0 by omega, hten]
    push_cast [Nat.pow_eq]
    field_simp

/-- Where the gap below a number is narrow. -/
theorem hasNarrowGap_iff (h : magnitude x = ⟨m, e⟩) :
    hasNarrowGap x ↔ m = 2 ^ 52 ∧ e ≠ -1074 := by
  have hf := fractionBits_lt x
  rw [magnitude] at h
  simp only [hasNarrowGap, Bool.and_eq_true, beq_iff_eq, decide_eq_true_eq]
  split_ifs at h <;> simp only [Magnitude.mk.injEq] at h <;> omega

/-- A size and the gap above it, measured on a grid. -/
theorem onGrid_spec (m : Nat) (e grid : Int) :
    (onGrid ⟨m, e⟩ grid).size = m * (onGrid ⟨m, e⟩ grid).quarter ∧
      (0 : ℚ) < (onGrid ⟨m, e⟩ grid).unit ∧
      ((onGrid ⟨m, e⟩ grid).quarter : ℚ) * 10 ^ grid = (onGrid ⟨m, e⟩ grid).unit * 2 ^ e := by
  simp only [onGrid, Nat.pow_eq]
  refine ⟨trivial, ?_, ?_⟩
  · push_cast
    positivity
  · rw [zpow_eq_div 2, zpow_eq_div 10]
    push_cast
    field_simp

/-- A grid point that passes the test rounds to the number. -/
theorem covers_of_readsAs (hc : Canonical m e) {narrow : Bool}
    (hn : narrow ↔ m = 2 ^ 52 ∧ e ≠ -1074)
    (h : readsAs (m % 2 == 0) narrow (onGrid ⟨m, e⟩ grid) n) : Covers m e (n * 10 ^ grid) := by
  obtain ⟨hsize, hunit, hratio⟩ := onGrid_spec m e grid
  generalize onGrid ⟨m, e⟩ grid = g at h hsize hunit hratio
  obtain ⟨k, hk, hreach, hk2⟩ : ∃ k : Nat, (if narrow then 1 else 2) = k ∧
      lowerReach m e = k / 4 ∧ k ≤ 2 := by
    refine ⟨_, rfl, ?_, ?_⟩
    · simp only [lowerReach, hn]
      split_ifs <;> norm_num
    · split_ifs <;> omega
  simp only [readsAs, hk] at h
  -- both ends of the interval and the grid point in the same unit
  have hp : (0 : ℚ) < 10 ^ grid := by positivity
  have hlow : 4 * g.unit * (((m : ℚ) - lowerReach m e) * 2 ^ e) =
      (4 * g.size - k * g.quarter : ℕ) * 10 ^ grid := by
    have hpos := hc.pos
    rw [Nat.cast_sub (by rw [hsize]; nlinarith), hreach, hsize]
    push_cast
    linear_combination (-4 * (m : ℚ) + k) * hratio
  have hhigh : 4 * g.unit * (((m : ℚ) + 1 / 2) * 2 ^ e) =
      (4 * g.size + 2 * g.quarter : ℕ) * 10 ^ grid := by
    rw [hsize]
    push_cast
    linear_combination (-4 * (m : ℚ) - 2) * hratio
  have hmid : 4 * g.unit * ((n : ℚ) * 10 ^ grid) = (4 * n * g.unit : ℕ) * 10 ^ grid := by
    push_cast
    ring
  have hle : ∀ {a b : ℚ} {p q : Nat}, 4 * g.unit * a = p * 10 ^ grid →
      4 * g.unit * b = q * 10 ^ grid → p ≤ q → a ≤ b := fun {a b p q} ha hb hpq => by
    refine le_of_mul_le_mul_left ?_ (show (0 : ℚ) < 4 * g.unit by positivity)
    rw [ha, hb]
    exact mul_le_mul_of_nonneg_right (by exact_mod_cast hpq) hp.le
  have hlt : ∀ {a b : ℚ} {p q : Nat}, 4 * g.unit * a = p * 10 ^ grid →
      4 * g.unit * b = q * 10 ^ grid → p < q → a < b := fun {a b p q} ha hb hpq => by
    refine lt_of_mul_lt_mul_left ?_ (show (0 : ℚ) ≤ 4 * g.unit by positivity)
    rw [ha, hb]
    exact mul_lt_mul_of_pos_right (by exact_mod_cast hpq) hp
  split_ifs at h with heven <;> simp only [Bool.and_eq_true, decide_eq_true_eq] at h
  · exact .inr ⟨by simpa using heven, hle hlow hmid h.1, hle hmid hhigh h.2⟩
  · exact .inl ⟨hlt hlow hmid h.1, hlt hmid hhigh h.2⟩

/-- What is found on a grid rounds to the number. -/
theorem covers_of_onGrid? (hc : Canonical m e) (hx : magnitude x = ⟨m, e⟩) {tie : Tie}
    (h : onGrid? tie x grid = some d) : Covers m e d.value := by
  have hread : ∀ n, readsAs ((magnitude x).mantissa % 2 == 0) (hasNarrowGap x)
      (onGrid (magnitude x) grid) n = true → Covers m e ((⟨n, grid⟩ : Decimal).value) := by
    rw [hx]
    exact fun n => covers_of_readsAs hc (hasNarrowGap_iff hx)
  simp only [onGrid?] at h
  split at h <;> cases h
  · next hlow hhigh =>
    split_ifs
    · exact hread _ hlow
    · exact hread _ hhigh
  · next hlow _ => exact hread _ hlow
  · next _ hhigh => exact hread _ hhigh

/-- **The value of the shortest decimal rounds to the number.** -/
theorem covers_shortest (hc : Canonical m e) (hx : magnitude x = ⟨m, e⟩) (tie : Tie) :
    Covers m e (shortest tie x).value := by
  rw [shortest, value_stripZeros]
  rcases hfound : (List.range 17).findSome? fun n : Nat =>
      onGrid? tie x (scale (magnitude x) - 1 - n) with _ | d
  · rw [Option.getD_none, value_exactly, hx]
    exact covers_self
  · obtain ⟨n, -, hn⟩ := List.exists_of_findSome?_eq_some hfound
    exact covers_of_onGrid? hc hx hn

end shortest

end Decimal

end RecordFormula
