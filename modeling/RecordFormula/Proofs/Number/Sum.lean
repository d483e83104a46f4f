import RecordFormula.Proofs.Number.Value

/-!
# Sums of numbers

Two finite numbers are brought to the smaller one of their exponents, where their sum is a whole
number of units; only then is it rounded.

* **A whole number of units rounds to the number that covers it** (`round_units_eq`,
  `normalize_units_eq`).
* **A sum that is a number is exact** (`add_exact`), and subtracting is adding the opposite
  (`sub_eq_add_neg`).
* **Sums and differences of whole numbers** (`IsWhole.add`, `IsWhole.sub`).
-/

namespace RecordFormula

namespace Number

open Float.Model (Format UnpackedFloat totalExponent)
open Float.Model.UnpackedFloat (Sign)

/-! ### Units -/

section units

variable {m M : Nat} {e E : Int} {k : Int}

/-- A whole number of units rounds to the number that covers it. -/
theorem round_units_eq (hc : Canonical m e) (hq : Covers m e (M * 2 ^ E)) (hM : 0 < M) (s : Sign) :
    UnpackedFloat.round Format.binary64 s M E = .finite s m e hc.pos := by
  unfold UnpackedFloat.round UnpackedFloat.decreaseExponent
  rw [targetExponent_eq]
  simp only [Nat.shiftLeft_eq]
  -- so many bits are appended to the mantissa
  obtain ⟨j, hj⟩ : ∃ j, (E - max ((M.log2 : Int) + E - 52) (-1074)).toNat = j := ⟨_, rfl⟩
  rw [hj]
  refine roundWithAccuracy_eq hc hq ?_ ?_ s
  · have hpow : (2 : ℚ) ^ (E - j) ≠ 0 := by positivity
    have hshift : (2 : ℚ) ^ E = 2 ^ j * 2 ^ (E - j) := by
      rw [← zpow_natCast, ← zpow_add₀ two_ne_zero, add_sub_cancel]
    rw [Between, div_eq_iff hpow, hshift]
    push_cast
    ring
  · by_cases hleast : E - j ≤ -1074
    · exact .inr hleast
    · left
      have hlog : 52 ≤ M.log2 + j := by omega
      calc 2 ^ 52 ≤ 2 ^ (M.log2 + j) := Nat.pow_le_pow_right (by decide) hlog
        _ = 2 ^ M.log2 * 2 ^ j := pow_add ..
        _ ≤ M * 2 ^ j := Nat.mul_le_mul_right _ (Nat.log2_self_le hM.ne')

/-- So does a number of units with a sign, which becomes the sign of the number. -/
theorem normalize_units_eq (hc : Canonical m e) (hk : k ≠ 0) (hq : |(k : ℚ)| * 2 ^ E = m * 2 ^ e) :
    ∃ s, UnpackedFloat.normalize Format.binary64 k E .positive = .finite s m e hc.pos ∧
      signed s (m * 2 ^ e) = k * 2 ^ E := by
  have hcovers : ∀ n : Nat, (n : ℚ) = |(k : ℚ)| → Covers m e (n * 2 ^ E) := by
    intro n hn
    rw [hn, hq]
    exact Decimal.covers_self
  unfold UnpackedFloat.normalize
  rcases lt_trichotomy k 0 with hneg | hzero | hpos
  · have habs : (((-k).toNat : ℕ) : ℚ) = |(k : ℚ)| := by
      rw [← Int.cast_natCast, Int.toNat_of_nonneg (by omega), ← Int.cast_abs, abs_of_neg hneg]
    rw [compare_lt_iff_lt.mpr hneg]
    refine ⟨.negative, round_units_eq hc (hcovers _ habs) (by omega) _, ?_⟩
    rw [signed, ← hq, ← Int.cast_abs, abs_of_neg hneg]
    push_cast
    ring
  · exact absurd hzero hk
  · have habs : ((k.toNat : ℕ) : ℚ) = |(k : ℚ)| := by
      rw [← Int.cast_natCast, Int.toNat_of_nonneg (by omega), ← Int.cast_abs, abs_of_pos hpos]
    rw [compare_gt_iff_gt.mpr hpos]
    refine ⟨.positive, round_units_eq hc (hcovers _ habs) (by omega) _, ?_⟩
    rw [signed, ← hq, ← Int.cast_abs, abs_of_pos hpos]

/-- A number with a sign in units of a smaller exponent. -/
theorem signed_units (s : Sign) (m : Nat) {e E : Int} (h : E ≤ e) :
    signed s (m * 2 ^ e) = (s.apply ((m <<< (e - E).toNat : ℕ) : Int) : Int) * 2 ^ E := by
  have hpow : (2 : ℚ) ^ e = 2 ^ (e - E).toNat * 2 ^ E := by
    rw [← zpow_natCast, ← zpow_add₀ two_ne_zero]
    congr 1
    omega
  rw [Nat.shiftLeft_eq, hpow]
  cases s <;> simp only [signed, Sign.apply] <;> push_cast <;> ring

end units

/-! ### Sums -/

section sums

variable {x y : Float} {i j : Int}

/-- The sum of two numbers in parts. -/
theorem add_parts (x y : Float) :
    x + y = .ofModel (.pack (UnpackedFloat.add Format.binary64 (unpacked x) (unpacked y))) := rfl

/-- Adding zero changes nothing but perhaps the sign of zero. -/
theorem value_add_zero {s : Sign} (hx : isFinite x) (hy : unpacked y = .zero s) :
    isFinite (x + y) ∧ value (x + y) = value x := by
  rcases unpacked_of_isFinite hx with hux | ⟨hc, hux⟩
  · have hsum : ∃ t, unpacked (x + y) = .zero t := by
      rw [add_parts, hux, hy]
      cases sign x <;> cases s <;> exact ⟨_, rfl⟩
    obtain ⟨t, ht⟩ := hsum
    have hwhole := isWhole_of_zero ht
    exact ⟨hwhole.isFinite, by rw [value_of_zero ht, value_of_zero hux]⟩
  · have hsum : x + y = x := by
      refine unpacked_injective ?_
      rw [add_parts, hux, hy]
      exact unpacked_finite hc _
    rw [hsum]
    exact ⟨hx, rfl⟩

/-- Numbers are added in any order. -/
theorem add_comm (x y : Float) : x + y = y + x := by
  have hparts : ∀ a b : UnpackedFloat, UnpackedFloat.add Format.binary64 a b =
      UnpackedFloat.add Format.binary64 b a := by
    intro a b
    have hsign : ∀ s t : Sign, (s == t) = (t == s) := by rintro ⟨⟩ ⟨⟩ <;> rfl
    cases a with
    | notANumber => cases b <;> rfl
    | infinity s =>
      cases b with
      | infinity t => cases s <;> cases t <;> rfl
      | _ => rfl
    | zero s =>
      cases b with
      | zero t => cases s <;> cases t <;> rfl
      | _ => rfl
    | finite s m e hm =>
      cases b with
      | finite t n f hn =>
        simp only [UnpackedFloat.add, min_comm e f, Int.add_comm (s.apply _)]
      | _ => rfl
  rw [add_parts, add_parts, hparts]

/-- **A sum that is a number is exact.** -/
theorem add_exact (hx : isFinite x) (hy : isFinite y)
    (hsum : value x + value y = 0 ∨ ∃ m e, Canonical m e ∧ |value x + value y| = m * 2 ^ e) :
    isFinite (x + y) ∧ value (x + y) = value x + value y := by
  rcases unpacked_of_isFinite hx with hux | ⟨hcx, hux⟩
  · have h := value_add_zero hy hux
    rw [add_comm] at h
    rw [value_of_zero hux, zero_add]
    exact h
  rcases unpacked_of_isFinite hy with huy | ⟨hcy, huy⟩
  · rw [value_of_zero huy, add_zero]
    exact value_add_zero hx huy
  generalize (magnitude x).mantissa = m₁ at hcx hux
  generalize (magnitude x).exponent = e₁ at hcx hux
  generalize (magnitude y).mantissa = m₂ at hcy huy
  generalize (magnitude y).exponent = e₂ at hcy huy
  obtain ⟨k, hk⟩ : ∃ k : Int, k =
      (sign x).apply ((m₁ <<< (e₁ - min e₁ e₂).toNat : ℕ) : Int) +
        (sign y).apply ((m₂ <<< (e₂ - min e₁ e₂).toNat : ℕ) : Int) := ⟨_, rfl⟩
  have hadd : x + y =
      .ofModel (.pack (UnpackedFloat.normalize Format.binary64 k (min e₁ e₂) .positive)) := by
    rw [add_parts, hux, huy, hk]
    rfl
  have hval : value x + value y = k * 2 ^ min e₁ e₂ := by
    rw [value_of_finite hux, value_of_finite huy, signed_units _ _ (min_le_left e₁ e₂),
      signed_units _ _ (min_le_right e₁ e₂), hk]
    push_cast
    ring
  have hpow : (2 : ℚ) ^ min e₁ e₂ ≠ 0 := by positivity
  by_cases hzero : k = 0
  · have hnone : UnpackedFloat.normalize Format.binary64 0 (min e₁ e₂) .positive =
        .zero .positive := rfl
    have hsumzero : unpacked (x + y) = .zero .positive := by
      rw [hadd, hzero, hnone]
      rfl
    rw [hval, hzero, Int.cast_zero, zero_mul, value_of_zero hsumzero]
    exact ⟨(isWhole_of_zero hsumzero).isFinite, rfl⟩
  · have hne : value x + value y ≠ 0 := by
      rw [hval]
      exact mul_ne_zero (by exact_mod_cast hzero) hpow
    obtain ⟨m, e, hc, hsize⟩ := hsum.resolve_left hne
    rw [hval, abs_mul, abs_of_pos (by positivity : (0 : ℚ) < 2 ^ min e₁ e₂)] at hsize
    obtain ⟨s, hs, hsigned⟩ := normalize_units_eq hc hzero hsize
    have hunpacked : unpacked (x + y) = .finite s m e hc.pos := by
      rw [hadd, hs]
      exact unpacked_finite hc s
    refine ⟨isFinite_iff.mpr (by rw [hunpacked]; rfl), ?_⟩
    rw [value_of_finite hunpacked, hsigned, hval]

/-- **A sum of whole numbers** that is small enough is the sum of the integers. -/
theorem IsWhole.add (hx : IsWhole x i) (hy : IsWhole y j) (h : (i + j).natAbs < 2 ^ 53) :
    IsWhole (x + y) (i + j) := by
  have hval : value x + value y = ((i + j : Int) : ℚ) := by
    rw [hx.value_eq, hy.value_eq, Int.cast_add]
  have hexact := add_exact hx.isFinite hy.isFinite <| by
    by_cases hzero : i + j = 0
    · left
      rw [hval, hzero, Int.cast_zero]
    · right
      obtain ⟨m, e, hc, hsize⟩ := exists_canonical_of_lt (Int.natAbs_pos.mpr hzero) h
      exact ⟨m, e, hc, by rw [hval, hsize, Nat.cast_natAbs, Int.cast_abs]⟩
  exact ⟨hexact.1, hexact.2.trans hval⟩

/-- **Subtracting is adding the opposite.** -/
theorem sub_eq_add_neg (x y : Float) : x - y = x + -y := by
  have hsub : x - y =
      .ofModel (.pack (UnpackedFloat.sub Format.binary64 (unpacked x) (unpacked y))) := rfl
  rw [hsub, add_parts, unpacked_neg]
  congr 2
  cases unpacked x with
  | notANumber => cases unpacked y <;> rfl
  | infinity s => cases unpacked y <;> rfl
  | zero s => cases unpacked y <;> rfl
  | finite s m e hm =>
    cases unpacked y with
    | finite t n f hn =>
      have hsign : ∀ k : Int, (-t).apply k = -t.apply k := by
        intro k
        cases t
        · exact (Int.neg_neg k).symm
        · rfl
      simp only [UnpackedFloat.sub, UnpackedFloat.neg, UnpackedFloat.add, hsign, Int.sub_eq_add_neg]
    | _ => rfl

/-- **A difference of whole numbers** that is small enough is the difference of the integers. -/
theorem IsWhole.sub (hx : IsWhole x i) (hy : IsWhole y j) (h : (i - j).natAbs < 2 ^ 53) :
    IsWhole (x - y) (i - j) := by
  rw [sub_eq_add_neg, Int.sub_eq_add_neg]
  exact hx.add hy.neg (by rwa [← Int.sub_eq_add_neg])

end sums

end Number

end RecordFormula
