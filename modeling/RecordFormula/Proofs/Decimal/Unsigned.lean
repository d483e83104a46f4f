import RecordFormula.Proofs.Decimal.Spelling

/-!
# Digits without a sign

What is read from digits without a sign has no minus sign and is a number, however many digits there
are. It may be infinite.

* `Number.Unsigned` — the numbers without a minus sign, zero and infinity among them.
* **What is made of a mantissa and an exponent is unsigned** (`Number.unsigned_ofParts`).
* **A decimal without a sign is unsigned** (`Decimal.unsigned_nearest`,
  `Decimal.unsigned_of_read?`).
* **More than 400 digits are infinite** (`Decimal.read?_of_long`).
-/

namespace RecordFormula

namespace Number

open Float.Model (UnpackedFloat)

/-! ### Unsigned numbers -/

/-- A number without a minus sign. -/
structure Unsigned (x : Float) : Prop where
  /-- It is a number. -/
  isNaN_eq : isNaN x = false
  /-- It has no minus sign. -/
  isNegative_eq : isNegative x = false

/-- An unsigned number is not below zero. -/
theorem Unsigned.not_lt_zero {x : Float} (h : Unsigned x) : ¬ x < 0.0 := by
  have hs : sign x = .positive := isNegative_eq_false_iff.mp h.isNegative_eq
  rw [lt_iff, unpacked_zero]
  rcases unpacked_cases x with hx | hx | hx | ⟨_, hx⟩
  all_goals
    rw [hx]
    simp [hs, UnpackedFloat.lt, UnpackedFloat.compare]

/-- An unsigned number is not negative zero. -/
theorem Unsigned.ne_negativeZero {x : Float} (h : Unsigned x) : x ≠ -0.0 := by
  rintro rfl
  exact absurd h.isNegative_eq (by decide)

/-- An unsigned number that is not finite is infinity. -/
theorem Unsigned.eq_infinity {x : Float} (h : Unsigned x) (hfin : isFinite x = false) :
    x = infinity := by
  have hs : sign x = .positive := isNegative_eq_false_iff.mp h.isNegative_eq
  have hinf : unpacked infinity = .infinity .positive := rfl
  rw [Bool.eq_false_iff, ne_eq, isFinite_iff] at hfin
  rcases unpacked_cases x with hx | hx | hx | ⟨_, hx⟩
  · have hnan := h.isNaN_eq
    rw [Bool.eq_false_iff, ne_eq, isNaN_iff] at hnan
    exact absurd hx hnan
  · rw [hs, ← hinf] at hx
    exact unpacked_injective hx
  · exact absurd (by rw [hx]; rfl) hfin
  · exact absurd (by rw [hx]; rfl) hfin

/-- What a mantissa and an exponent make is unsigned. -/
theorem unsigned_ofParts {m : Nat} {e : Int} (hf : Fitting m e) : Unsigned (ofParts m e) :=
  ⟨isNaN_ofParts hf, isNegative_eq_false_iff.mpr (sign_ofParts hf)⟩

end Number

/-! ### Decimals -/

namespace Decimal

open Number

/-- **The number nearest to a decimal is unsigned.** -/
theorem unsigned_nearest (digits : Nat) (exponent : Int) : Unsigned (nearest digits exponent) := by
  obtain ⟨m, e, hf, hq⟩ := exists_covers (q := digits * 10 ^ exponent) (by positivity)
  rw [nearest_eq_ofParts hf hq]
  exact unsigned_ofParts hf

/-- **What is read from a text that starts with a digit is unsigned.** -/
theorem unsigned_of_read? {c : Char} {cs : List Char} {x : Float} (hc : isDigit c = true)
    (h : read? (c :: cs) = some x) : Unsigned x := by
  obtain ⟨s, hs, rfl⟩ := Option.map_eq_some_iff.mp h
  have hsign := splitSign_of_isDigit hc cs
  have hneg : s.negative = false := by
    simp only [spelling?, hsign] at hs
    split_ifs at hs
    obtain ⟨e, -, rfl⟩ := Option.map_eq_some_iff.mp hs
    rfl
  rw [Spelling.value, hneg]
  exact unsigned_nearest s.digits s.exponent

/-- **A whole number of more than 400 digits is read as infinity.** -/
theorem read?_of_long {ds : List Char} {n : Nat} (hd : ∀ c ∈ ds, isDigit c = true) (hn : 400 ≤ n)
    (hlong : 10 ^ n ≤ ofDigits ds) : read? ds = some infinity := by
  have hpos : 0 < ofDigits ds := (Nat.pow_pos (by decide)).trans_le hlong
  have hne : ds ≠ [] := by
    rintro rfl
    exact absurd hpos (by decide)
  have hspelling : spelling? ds = some ⟨false, ofDigits ds, 0⟩ := by
    have hdigits : ∀ c ∈ ds ++ [], isDigit c = true := by simpa using hd
    have h := spelling?_of_digits hne hdigits (show exponent? [] = some 0 from rfl)
    simpa [pointed] using h
  have hlength : n < (toString (ofDigits ds)).length :=
    (Nat.pow_lt_pow_iff_right (by decide)).mp (hlong.trans_lt (pow_length_le hpos).2)
  rw [read?, hspelling, Option.map_some, Spelling.value]
  simp only [nearest, Bool.false_eq_true, if_false]
  rw [if_neg (by simp only [Bool.or_eq_true, decide_eq_true_eq]; omega), if_pos (by omega)]

end Decimal

end RecordFormula
