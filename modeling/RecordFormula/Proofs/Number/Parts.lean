import Mathlib
import RecordFormula.Number.Exact

/-!
# The parts of a number

What the bits of a number say: a sign, an exponent and a fraction, or else that it is infinite or
not a number. Everything about numbers is derived from these parts, not from the bits.

* `unpacked` — a number in parts; `Canonical` says which mantissas and exponents occur, `Fitting`
  which ones rounding leads to.
* **The parts are those that the bits are read as** (`unpacked_eq`).
* **Parts and numbers correspond** (`unpacked_injective`, `unpacked_finite`).
* `ofParts` — the number that a mantissa and an exponent make: zero, infinity or one with these parts
  (`ofParts_cases`).
* **Signs and sizes** (`isNaN_iff`, `isFinite_iff`, `unpacked_neg`, `lt_zero_iff`).
-/

namespace RecordFormula

namespace Number

open Float.Model (Format UnpackedFloat)
open Float.Model.UnpackedFloat (Sign)

/-- A number in parts. -/
def unpacked (x : Float) : UnpackedFloat := x.toModel.unpack

/-- The sign of a number. -/
def sign (x : Float) : Sign := if isNegative x then .negative else .positive

/-- The mantissa and the exponent of a finite number other than zero. -/
structure Canonical (m : Nat) (e : Int) : Prop where
  /-- The number is not zero. -/
  pos : 0 < m
  /-- The mantissa has at most 53 bits. -/
  lt : m < 2 ^ 53
  /-- The exponent is not below the range. -/
  least : -1074 ≤ e
  /-- The exponent is not above the range. -/
  most : e ≤ 971
  /-- Only numbers of the least exponent have a shorter mantissa. -/
  normal : 2 ^ 52 ≤ m ∨ e = -1074

/-- The mantissa and the exponent that rounding leads to. The mantissa may be zero, and the exponent
may be above the range: then the number is infinite. -/
structure Fitting (m : Nat) (e : Int) : Prop where
  /-- The mantissa has at most 53 bits. -/
  lt : m < 2 ^ 53
  /-- The exponent is not below the range. -/
  least : -1074 ≤ e
  /-- Only numbers of the least exponent have a shorter mantissa. -/
  normal : 2 ^ 52 ≤ m ∨ e = -1074

/-- A number has such a mantissa and exponent. -/
theorem Canonical.fitting {m : Nat} {e : Int} (h : Canonical m e) : Fitting m e :=
  ⟨h.lt, h.least, h.normal⟩

/-- The parts that a mantissa and an exponent make. -/
def sized (s : Sign) (m : Nat) (e : Int) : UnpackedFloat :=
  if h : m = 0 then .zero s else .finite s m e (Nat.pos_of_ne_zero h)

/-- A number other than zero has its mantissa and its exponent. -/
theorem sized_of_pos {m : Nat} (h : 0 < m) (s : Sign) (e : Int) : sized s m e = .finite s m e h :=
  dif_neg h.ne'

/-- The number without a sign that a mantissa and an exponent make. -/
def ofParts (m : Nat) (e : Int) : Float := .ofModel (.pack (sized .positive m e))

/-- A mantissa of zero makes zero. -/
theorem ofParts_zero (e : Int) : ofParts 0 e = 0.0 := rfl

/-! ### Bits -/

section bits

/-- The last 52 bits are the fraction. -/
theorem toNat_unpackMantissa (b : BitVec Format.binary64.numBits) :
    (@UnpackedFloat.unpackMantissa Format.binary64 b).toNat = b.toNat % 2 ^ 52 := by
  simp [UnpackedFloat.unpackMantissa]

/-- The eleven bits before them are the exponent. -/
theorem toNat_unpackExponent (b : BitVec Format.binary64.numBits) :
    (@UnpackedFloat.unpackExponent Format.binary64 b).toNat =
      b.toNat / 2 ^ 52 % 2 ^ 11 := by
  simp [UnpackedFloat.unpackExponent, Nat.shiftRight_eq_div_pow]

/-- The first bit is the sign. -/
theorem toNat_unpackSign (b : BitVec Format.binary64.numBits) :
    (@UnpackedFloat.unpackSign Format.binary64 b).toNat = b.toNat / 2 ^ 63 := by
  have hb : b.toNat < 2 ^ 64 := b.isLt
  simp [UnpackedFloat.unpackSign, Nat.shiftRight_eq_div_pow]
  omega

/-- The bits of the fraction as a remainder. -/
theorem fractionBits_eq (x : Float) : fractionBits x = x.toBits.toNat % 2 ^ 52 := by
  simp only [fractionBits, UInt64.toNat_and]
  exact Nat.and_two_pow_sub_one_eq_mod _ 52

/-- The bits of the exponent as a quotient. -/
theorem exponentBits_eq (x : Float) : exponentBits x = x.toBits.toNat / 2 ^ 52 % 2 ^ 11 := by
  simp only [exponentBits, UInt64.toNat_and, UInt64.toNat_shiftRight, Nat.shiftRight_eq_div_pow]
  exact Nat.and_two_pow_sub_one_eq_mod _ 11

/-- The bit of the sign as a quotient. -/
theorem isNegative_iff (x : Float) : isNegative x ↔ x.toBits.toNat / 2 ^ 63 = 1 := by
  simp [isNegative, ← UInt64.toNat_inj, Nat.shiftRight_eq_div_pow]

/-- A fraction has 52 bits. -/
theorem fractionBits_lt (x : Float) : fractionBits x < 2 ^ 52 := by
  rw [fractionBits_eq]
  omega

/-- An exponent has eleven bits. -/
theorem exponentBits_lt (x : Float) : exponentBits x < 2 ^ 11 := by
  rw [exponentBits_eq]
  omega

end bits

/-! ### Reading the bits -/

section reading

/-- The parts of a number, from its bits. -/
theorem unpacked_eq (x : Float) :
    unpacked x =
      if exponentBits x = 2047 then
        if fractionBits x = 0 then .infinity (sign x) else .notANumber
      else if h : (magnitude x).mantissa = 0 then .zero (sign x)
      else
        .finite (sign x) (magnitude x).mantissa (magnitude x).exponent (Nat.pos_of_ne_zero h) := by
  have hm := toNat_unpackMantissa x.toBits.toBitVec
  have he := toNat_unpackExponent x.toBits.toBitVec
  have hs := toNat_unpackSign x.toBits.toBitVec
  have hx : x.toBits.toBitVec.toNat = x.toBits.toNat := rfl
  rw [hx, ← fractionBits_eq] at hm
  rw [hx, ← exponentBits_eq] at he
  rw [hx] at hs
  have hsign : Sign.ofBitVec
      (@UnpackedFloat.unpackSign Format.binary64 x.toBits.toBitVec) = sign x := by
    have hb := x.toBits.toNat_lt
    simp only [Sign.ofBitVec, sign, isNegative_iff, ← BitVec.toNat_inj, hs, BitVec.toNat_ofNat]
    split_ifs <;> first | rfl | omega
  have hall : (-1#11).toNat = 2047 := rfl
  have hbias : (Format.binary64.exponentBias : Int) + (52 : Nat) = 1075 := rfl
  -- the leading bit of a mantissa that is not written
  have hone : 4503599627370496 ||| fractionBits x = 4503599627370496 + fractionBits x :=
    (Nat.shiftLeft_add_eq_or_of_lt (fractionBits_lt x) 1).symm
  show UnpackedFloat.unpack Format.binary64 x.toBits.toBitVec = _
  simp only [UnpackedFloat.unpack, hsign, ← BitVec.toNat_inj, hm, he, magnitude, hall, hbias,
    BitVec.toNat_append, BitVec.toNat_ofNat, Nat.zero_mod]
  by_cases hexp : exponentBits x = 0
  · by_cases hf : fractionBits x = 0 <;> simp [hexp, hf]
  · simp [hexp, hone]

/-- The mantissa and the exponent of a number that is neither infinite nor zero. -/
theorem canonical_magnitude {x : Float} (hexp : exponentBits x ≠ 2047)
    (hm : (magnitude x).mantissa ≠ 0) :
    Canonical (magnitude x).mantissa (magnitude x).exponent := by
  have hlt := exponentBits_lt x
  have hf := fractionBits_lt x
  unfold magnitude at hm ⊢
  split_ifs at hm ⊢ with hzero
  · exact ⟨Nat.pos_of_ne_zero hm, by simp only; omega, Int.le_refl _, by simp, .inr rfl⟩
  · exact ⟨by simp only; omega, by simp only; omega, by simp only; omega, by simp only; omega,
      .inl (by simp only; omega)⟩

end reading

/-! ### Writing the bits -/

section writing

/-- The bits of a number that is put together from a sign, an exponent and a fraction. -/
theorem bits_of_packComponents {x : Float} {s : Sign} {e : BitVec 11} {m : BitVec 52}
    (h : x.toBits.toBitVec = UnpackedFloat.packComponents Format.binary64 s e m) :
    exponentBits x = e.toNat ∧ fractionBits x = m.toNat ∧ sign x = s := by
  have hm := toNat_unpackMantissa x.toBits.toBitVec
  have he := toNat_unpackExponent x.toBits.toBitVec
  have hs := toNat_unpackSign x.toBits.toBitVec
  have hx : x.toBits.toBitVec.toNat = x.toBits.toNat := rfl
  rw [hx, h, UnpackedFloat.unpackMantissa_packComponents] at hm
  rw [hx, h, UnpackedFloat.unpackExponent_packComponents] at he
  rw [hx, h, UnpackedFloat.unpackSign_packComponents] at hs
  refine ⟨by rw [exponentBits_eq, he], by rw [fractionBits_eq, hm], ?_⟩
  simp only [sign, isNegative_iff, ← hs]
  cases s <;> rfl

/-- The bits of a finite number other than zero. -/
theorem bits_of_finite {m : Nat} {e : Int} (h : Canonical m e) (s : Sign) {x : Float}
    (hx : x = .ofModel (.pack (.finite s m e h.pos))) :
    exponentBits x = (if 2 ^ 52 ≤ m then (e + 1075).toNat else 0) ∧
      fractionBits x = m % 2 ^ 52 ∧ sign x = s := by
  obtain ⟨hpos, hlt, hle, hge, hnorm⟩ := h
  replace hx : x.toBits.toBitVec = UnpackedFloat.pack Format.binary64 (.finite s m e hpos) := by
    rw [hx]
    rfl
  have hbias : (Format.binary64.exponentBias : Int) + (52 : Nat) = 1075 := rfl
  have hbits : Format.binary64.mantissaBits = 53 := rfl
  simp only [UnpackedFloat.pack, Int.add_assoc, hbias, hbits] at hx
  rw [if_neg (by omega)] at hx
  by_cases hm : 2 ^ 52 ≤ m
  · have hlog : m.log2 = 52 := (Nat.log2_eq_iff (by omega)).mpr ⟨hm, hlt⟩
    rw [if_pos (by omega)] at hx
    obtain ⟨he, hf, hs⟩ := bits_of_packComponents hx
    refine ⟨?_, by rw [hf, BitVec.toNat_ofNat], hs⟩
    rw [he, if_pos hm, BitVec.toNat_ofNat, Nat.mod_eq_of_lt (by omega)]
  · have hlog : m.log2 < 52 := (Nat.log2_lt (by omega)).mpr (by omega)
    rw [if_neg (by omega)] at hx
    obtain ⟨he, hf, hs⟩ := bits_of_packComponents hx
    refine ⟨?_, by rw [hf, BitVec.toNat_ofNat], hs⟩
    rw [he, if_neg hm]
    rfl

/-- The parts of a finite number other than zero are those that it is made of. -/
theorem unpacked_finite {m : Nat} {e : Int} (h : Canonical m e) (s : Sign) :
    unpacked (.ofModel (.pack (.finite s m e h.pos))) = .finite s m e h.pos := by
  obtain ⟨he, hf, hs⟩ := bits_of_finite h s rfl
  obtain ⟨hpos, hlt, hle, hge, hnorm⟩ := h
  have hmag : magnitude (.ofModel (.pack (.finite s m e hpos))) = ⟨m, e⟩ := by
    rw [magnitude, he, hf]
    by_cases hm : 2 ^ 52 ≤ m
    · rw [if_pos hm, if_neg (by omega), Magnitude.mk.injEq]
      omega
    · rw [if_neg hm, if_pos rfl, Magnitude.mk.injEq]
      omega
  rw [unpacked_eq]
  simp only [hmag, hs, he]
  rw [dif_neg (by omega), if_neg]
  split_ifs
  · omega
  · decide

/-- A number has the mantissa and the exponent that make it. -/
theorem unpacked_ofParts {m : Nat} {e : Int} (h : Canonical m e) :
    unpacked (ofParts m e) = .finite .positive m e h.pos := by
  rw [ofParts, sized_of_pos h.pos, unpacked_finite h]

/-- An exponent above the range makes infinity. -/
theorem ofParts_of_lt {m : Nat} {e : Int} (hm : 0 < m) (he : 971 < e) : ofParts m e = infinity := by
  have hpack : UnpackedFloat.pack Format.binary64 (.finite .positive m e hm) =
      UnpackedFloat.packedInfinity Format.binary64 .positive := by
    have hbias : (Format.binary64.exponentBias : Int) + (52 : Nat) = 1075 := rfl
    simp only [UnpackedFloat.pack, Int.add_assoc, hbias]
    rw [if_pos]
    show 2 ^ 11 ≤ (e + 1075).toNat + 1
    omega
  refine Float.toBits_inj.mp (UInt64.toBitVec_inj.mp ?_)
  rw [ofParts, sized_of_pos hm]
  exact hpack

/-- A mantissa and an exponent make zero, infinity or a number with these parts. -/
theorem ofParts_cases (hf : Fitting m e) :
    (m = 0 ∧ ofParts m e = 0.0) ∨ (971 < e ∧ ofParts m e = infinity) ∨
      ∃ hc : Canonical m e, unpacked (ofParts m e) = .finite .positive m e hc.pos := by
  rcases Nat.eq_zero_or_pos m with rfl | hpos
  · exact .inl ⟨rfl, ofParts_zero e⟩
  rcases le_or_gt e 971 with hle | hlt
  · have hc : Canonical m e := ⟨hpos, hf.lt, hf.least, hle, hf.normal⟩
    exact .inr (.inr ⟨hc, unpacked_ofParts hc⟩)
  · exact .inr (.inl ⟨hlt, ofParts_of_lt hpos hlt⟩)

/-- Numbers of the same parts are the same number. -/
theorem unpacked_injective {x y : Float} (h : unpacked x = unpacked y) : x = y := by
  have hbits := (UnpackedFloat.unpack_inj_of_valid x.toModel.valid y.toModel.valid).mp h
  exact Float.toBits_inj.mp (UInt64.toBitVec_inj.mp hbits)

/-- A number without a sign is made of its parts. -/
theorem eq_ofParts {x : Float} {m : Nat} {e : Int} (h : Canonical m e)
    (hx : unpacked x = .finite .positive m e h.pos) : x = ofParts m e :=
  unpacked_injective (hx.trans (unpacked_ofParts h).symm)

end writing

/-! ### Signs and sizes -/

section sizes

variable {x : Float}

/-- The finite number with a sign, a mantissa and an exponent. -/
theorem unpacked_cases (x : Float) :
    unpacked x = .notANumber ∨ unpacked x = .infinity (sign x) ∨ unpacked x = .zero (sign x) ∨
      ∃ h : Canonical (magnitude x).mantissa (magnitude x).exponent,
        unpacked x = .finite (sign x) (magnitude x).mantissa (magnitude x).exponent h.pos := by
  have heq := unpacked_eq x
  split_ifs at heq with hexp hf hm
  · exact .inr (.inl heq)
  · exact .inl heq
  · exact .inr (.inr (.inl heq))
  · exact .inr (.inr (.inr ⟨canonical_magnitude hexp hm, heq⟩))

/-- Changing the sign of a number changes the sign of its parts. -/
theorem unpacked_neg (x : Float) : unpacked (-x) = (unpacked x).neg := by
  have hx : -x = .ofModel (.pack (unpacked x).neg) := rfl
  rw [hx]
  rcases unpacked_cases x with h | h | h | ⟨hc, h⟩ <;> rw [h, UnpackedFloat.neg]
  · rfl
  · cases sign x <;> rfl
  · cases sign x <;> rfl
  · exact unpacked_finite hc _

/-- Changing the sign twice changes nothing. -/
@[simp] theorem neg_neg (x : Float) : - -x = x := by
  refine unpacked_injective ?_
  rw [unpacked_neg, unpacked_neg]
  have hs : ∀ s : Sign, - -s = s := by rintro ⟨⟩ <;> rfl
  cases unpacked x <;> simp [UnpackedFloat.neg, hs]

/-- Zero in parts. -/
@[simp] theorem unpacked_zero : unpacked 0.0 = .zero .positive := rfl

/-- A number is below another as its parts are. -/
theorem lt_iff (x y : Float) : x < y ↔ (unpacked x).lt (unpacked y) = true := by
  show (decide (x.toModel < y.toModel) = true) ↔ _
  rw [decide_eq_true_eq]
  rfl

/-- A number is not a number if its parts say so. -/
theorem isNaN_iff : isNaN x ↔ unpacked x = .notANumber := by
  have hx : isNaN x = !(unpacked x).beq (unpacked x) := rfl
  rw [hx, Bool.not_eq_true', Bool.eq_false_iff, ne_eq, UnpackedFloat.beq_iff_ne_notANumber_and_eq]
  simp

/-- A number is finite if its parts say so. -/
theorem isFinite_iff : isFinite x ↔ (unpacked x).isFinite = true := by
  have hx : isFinite x = (unpacked (.ofModel (.pack
      (UnpackedFloat.sub Format.binary64 (unpacked x) (unpacked x))))).beq (unpacked 0.0) := rfl
  rw [hx]
  rcases unpacked_cases x with h | h | h | ⟨hc, h⟩ <;> rw [h]
  · decide
  · cases sign x <;> decide
  · cases sign x <;> decide
  · -- the difference is an exact zero
    have hsub : UnpackedFloat.sub Format.binary64
        (.finite (sign x) (magnitude x).mantissa (magnitude x).exponent hc.pos)
        (.finite (sign x) (magnitude x).mantissa (magnitude x).exponent hc.pos) =
          .zero .positive := by
      simp only [UnpackedFloat.sub, Int.sub_self, UnpackedFloat.normalize]
      rfl
    rw [hsub]
    exact ⟨fun _ => rfl, fun _ => rfl⟩

/-- A finite number is not not-a-number. -/
theorem isNaN_of_isFinite (h : isFinite x) : isNaN x = false := by
  rw [Bool.eq_false_iff, ne_eq, isNaN_iff]
  intro hnan
  rw [isFinite_iff, hnan] at h
  cases h

/-- A finite number is zero or has a mantissa and an exponent. -/
theorem unpacked_of_isFinite (h : isFinite x) :
    unpacked x = .zero (sign x) ∨
      ∃ hc : Canonical (magnitude x).mantissa (magnitude x).exponent,
        unpacked x = .finite (sign x) (magnitude x).mantissa (magnitude x).exponent hc.pos := by
  rw [isFinite_iff] at h
  rcases unpacked_cases x with hx | hx | hx | hx
  · simp [hx, UnpackedFloat.isFinite] at h
  · simp [hx, UnpackedFloat.isFinite] at h
  · exact .inl hx
  · exact .inr hx

/-- What is neither finite nor not a number is infinite. -/
theorem unpacked_of_infinite (hnan : isNaN x = false) (hfin : isFinite x = false) :
    unpacked x = .infinity (sign x) := by
  rw [Bool.eq_false_iff, ne_eq] at hnan hfin
  rw [isNaN_iff] at hnan
  rw [isFinite_iff] at hfin
  rcases unpacked_cases x with hx | hx | hx | ⟨hc, hx⟩
  · exact absurd hx hnan
  · exact hx
  · exact absurd (by rw [hx]; rfl) hfin
  · exact absurd (by rw [hx]; rfl) hfin

/-- The sign and the size of a number are those of its parts. -/
theorem of_unpacked_finite {s : Sign} {m : Nat} {e : Int} {hm : 0 < m}
    (h : unpacked x = .finite s m e hm) : sign x = s ∧ magnitude x = ⟨m, e⟩ ∧ Canonical m e := by
  rcases unpacked_cases x with hx | hx | hx | ⟨hc, hx⟩ <;> rw [h] at hx
  · cases hx
  · cases hx
  · cases hx
  · injection hx with hs hm he
    rw [← hm, ← he] at hc
    exact ⟨hs.symm, by rw [hm, he], hc⟩

/-- The sign of an infinite number. -/
theorem sign_of_infinity {s : Sign} (h : unpacked x = .infinity s) : sign x = s := by
  rcases unpacked_cases x with hx | hx | hx | ⟨_, hx⟩ <;> rw [h] at hx
  · cases hx
  · injection hx with hs
    exact hs.symm
  · cases hx
  · cases hx

/-- The sign of a zero. -/
theorem sign_of_zero {s : Sign} (h : unpacked x = .zero s) : sign x = s := by
  rcases unpacked_cases x with hx | hx | hx | ⟨_, hx⟩ <;> rw [h] at hx
  · cases hx
  · cases hx
  · injection hx with hs
    exact hs.symm
  · cases hx

/-- A mantissa and an exponent make a number. -/
theorem isNaN_ofParts {m : Nat} {e : Int} (hf : Fitting m e) : isNaN (ofParts m e) = false := by
  rw [Bool.eq_false_iff, ne_eq, isNaN_iff]
  rcases ofParts_cases hf with ⟨-, hx⟩ | ⟨-, hx⟩ | ⟨_, hx⟩ <;> rw [hx]
  · exact fun h => nomatch h
  · exact fun h => nomatch h
  · exact fun h => nomatch h

/-- It has no minus sign. -/
theorem sign_ofParts {m : Nat} {e : Int} (hf : Fitting m e) : sign (ofParts m e) = .positive := by
  rcases ofParts_cases hf with ⟨-, hx⟩ | ⟨-, hx⟩ | ⟨_, hx⟩
  · rw [hx]
    exact sign_of_zero unpacked_zero
  · rw [hx]
    exact sign_of_infinity rfl
  · exact (of_unpacked_finite hx).1

/-- A number other than zero is below zero if it has a minus sign. -/
theorem lt_zero_iff {s : Sign} {m : Nat} {e : Int} {hm : 0 < m}
    (h : unpacked x = .finite s m e hm) : x < 0.0 ↔ s = .negative := by
  rw [lt_iff, h, unpacked_zero]
  cases s <;> simp [UnpackedFloat.lt, UnpackedFloat.compare]

/-- The sign of a number without a minus sign. -/
theorem isNegative_eq_false_iff : isNegative x = false ↔ sign x = .positive := by
  unfold sign
  split_ifs with h <;> simp [h]

/-- The opposite of a number below zero has no minus sign. -/
theorem isNegative_neg (hfin : isFinite x) (h : x < 0.0) :
    isFinite (-x) ∧ isNegative (-x) = false := by
  rcases unpacked_of_isFinite hfin with hx | ⟨hc, hx⟩
  · rw [lt_iff, hx] at h
    cases sign x <;> simp [UnpackedFloat.lt, UnpackedFloat.compare] at h
  · rw [lt_zero_iff hx] at h
    have hneg : unpacked (-x) =
        .finite .positive (magnitude x).mantissa (magnitude x).exponent hc.pos := by
      rw [unpacked_neg, hx, h]
      rfl
    exact ⟨isFinite_iff.mpr (by rw [hneg]; rfl),
      isNegative_eq_false_iff.mpr (of_unpacked_finite hneg).1⟩

/-- A number that is not below zero has no minus sign, except for negative zero. -/
theorem isNegative_of_not_lt (hfin : isFinite x) (hzero : x ≠ -0.0) (h : ¬ x < 0.0) :
    isNegative x = false := by
  rw [isNegative_eq_false_iff]
  rcases unpacked_of_isFinite hfin with hx | ⟨hc, hx⟩
  · cases hs : sign x with
    | positive => rfl
    | negative =>
      rw [hs] at hx
      exact absurd (unpacked_injective (y := -0.0) hx) hzero
  · rw [lt_zero_iff hx] at h
    cases hs : sign x with
    | positive => rfl
    | negative => exact absurd hs h

end sizes

end Number

end RecordFormula
