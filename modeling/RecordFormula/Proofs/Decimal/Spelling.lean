import RecordFormula.Decimal.Style
import RecordFormula.Proofs.Decimal.Grammar
import RecordFormula.Proofs.Decimal.Shortest

/-!
# Numbers are read back

A number is written with digits, at most one point and perhaps an exponent, and what is written is
read as the number itself.

* **A decimal in plain digits is spelled with its value** (`writePlain_spec`).
* **Digits with a point and an exponent are read with their value** (`spelling?_of_digits`).
* `Spells` — the text is a spelling of the value. **Decimals are spelled by their texts**, in plain
  digits (`spells_writePlain`) and with an exponent (`spells_writeScientific`).
* **A finite number is read back**, in whichever style it is written (`read?_write`).
-/

namespace RecordFormula

namespace Decimal

open Number
open Float.Model (UnpackedFloat)

/-! ### Digits -/

section digits

variable {cs whole fraction : List Char} {d : Decimal}

/-- A number has digits, and they spell it. -/
theorem exists_digits (n : Nat) :
    ∃ ds, toString n = String.ofList ds ∧ ds ≠ [] ∧ (∀ c ∈ ds, isDigit c = true) ∧
      ofDigits ds = n :=
  ⟨Nat.toDigits 10 n, Nat.toString_eq_ofList_toDigits, Nat.toDigits_ne_nil,
    fun _ hc => Nat.isDigit_of_mem_toDigits (by decide) (by decide) hc,
    Nat.ofDigitChars_ten_toDigits⟩

/-- An integer has digits, behind a minus sign if it is negative. -/
theorem exists_digits_int (k : Int) :
    ∃ ds, (toString k).toList = (if k < 0 then '-' :: ds else ds) ∧ ds ≠ [] ∧
      (∀ c ∈ ds, isDigit c = true) ∧ ofDigits ds = k.natAbs := by
  cases k with
  | ofNat n =>
    obtain ⟨ds, hds, hne, hdigit, hof⟩ := exists_digits n
    have htext : toString (Int.ofNat n) = toString n := rfl
    exact ⟨ds, by rw [htext, hds, String.toList_ofList, if_neg (by simp)], hne, hdigit, hof⟩
  | negSucc n =>
    obtain ⟨ds, hds, hne, hdigit, hof⟩ := exists_digits (n + 1)
    have htext : toString (Int.negSucc n) = "-" ++ toString (n + 1) := rfl
    refine ⟨ds, ?_, hne, hdigit, hof⟩
    rw [htext, String.toList_append, hds, if_pos (by omega)]
    exact congrArg (List.cons '-') String.toList_ofList

/-- Zeros behind the digits count tens. -/
theorem ofDigits_append_zeros (cs : List Char) (n : Nat) :
    ofDigits (cs ++ List.replicate n '0') = 10 ^ n * ofDigits cs := by
  have h := Nat.ofDigitChars_append (b := 10) (l := cs) (m := List.replicate n '0') 0
  rw [Nat.ofDigitChars_replicate_zero] at h
  exact h

/-- Zeros before the digits do not count. -/
theorem ofDigits_zeros_append (n : Nat) (cs : List Char) :
    ofDigits (List.replicate n '0' ++ cs) = ofDigits cs := by
  have h := Nat.ofDigitChars_append (b := 10) (l := List.replicate n '0') (m := cs) 0
  rw [Nat.ofDigitChars_replicate_zero, Nat.mul_zero] at h
  exact h

/-- The digits before a point, and the point with those behind it, if there are any. -/
def pointed (whole fraction : List Char) : List Char :=
  whole ++ if fraction.isEmpty then [] else '.' :: fraction

/-- A decimal in plain digits has its value in digits before and behind the point. -/
theorem writePlain_spec (pointZero : Bool) (d : Decimal) :
    ∃ whole fraction, (writePlain pointZero d).toList = pointed whole fraction ∧ whole ≠ [] ∧
      (∀ c ∈ whole ++ fraction, isDigit c = true) ∧
      (ofDigits (whole ++ fraction) : ℚ) * 10 ^ (-(fraction.length : Int)) = d.value := by
  obtain ⟨ds, hds, hne, hdigit, hof⟩ := exists_digits d.digits
  have hzero : ∀ k, ∀ c ∈ List.replicate k '0', isDigit c = true := by
    intro k c hc
    rw [List.eq_of_mem_replicate hc]
    rfl
  have hlen : 0 < ds.length := List.length_pos_iff.mpr hne
  simp only [writePlain, hds, String.length_ofList, String.toList_ofList]
  split_ifs with hexp hflag hshort
  · refine ⟨ds ++ List.replicate d.exponent.toNat '0', ['0'], ?_, by simp [hne], ?_, ?_⟩
    · simp [pointed, zeros]
    · simp only [List.mem_append]
      rintro c ((hc | hc) | hc)
      · exact hdigit c hc
      · exact hzero _ c hc
      · exact hzero 1 c hc
    · have htenth : ofDigits (ds ++ List.replicate d.exponent.toNat '0' ++ ['0']) =
          10 ^ 1 * (10 ^ d.exponent.toNat * ofDigits ds) := by
        rw [← ofDigits_append_zeros, ← ofDigits_append_zeros]
        rfl
      rw [htenth, hof, value, zpow_eq_div 10 d.exponent, show (-d.exponent).toNat = 0 by omega,
        List.length_singleton, Nat.cast_one, zpow_neg_one]
      push_cast
      ring
  · refine ⟨ds ++ List.replicate d.exponent.toNat '0', [], ?_, by simp [hne], ?_, ?_⟩
    · simp [pointed, zeros]
    · simp only [List.append_nil, List.mem_append]
      rintro c (hc | hc)
      · exact hdigit c hc
      · exact hzero _ c hc
    · rw [List.append_nil, ofDigits_append_zeros, hof, value, zpow_eq_div 10 d.exponent,
        show (-d.exponent).toNat = 0 by omega]
      simp [mul_comm]
  · refine ⟨ds.take (ds.length - d.exponent.natAbs), ds.drop (ds.length - d.exponent.natAbs),
      ?_, ?_, ?_, ?_⟩
    · have hdrop : ds.drop (ds.length - d.exponent.natAbs) ≠ [] := by
        rw [ne_eq, List.drop_eq_nil_iff]
        omega
      simp [pointed, hdrop]
    · rw [ne_eq, List.take_eq_nil_iff]
      rintro (h | h)
      · omega
      · exact hne h
    · rw [List.take_append_drop]
      exact hdigit
    · rw [List.take_append_drop, hof, value, List.length_drop]
      congr 2
      omega
  · refine ⟨['0'], List.replicate (d.exponent.natAbs - ds.length) '0' ++ ds, ?_, by simp, ?_, ?_⟩
    · simp [pointed, zeros, hne]
    · simp only [List.cons_append, List.nil_append, List.mem_cons, List.mem_append]
      rintro c (rfl | hc | hc)
      · rfl
      · exact hzero _ c hc
      · exact hdigit c hc
    · rw [show ['0'] ++ (List.replicate (d.exponent.natAbs - ds.length) '0' ++ ds) =
        List.replicate (d.exponent.natAbs - ds.length + 1) '0' ++ ds by
          simp [List.replicate_succ], ofDigits_zeros_append, hof, value, List.length_append,
        List.length_replicate]
      congr 2
      omega

/-- **A spelling of digits with at most one point**, and perhaps an exponent behind them, is read
with its value. -/
theorem spelling?_of_digits {tail : List Char} {k : Int} (hw : whole ≠ [])
    (hd : ∀ c ∈ whole ++ fraction, isDigit c = true) (htail : exponent? tail = some k) :
    spelling? (pointed whole fraction ++ tail) =
      some ⟨false, ofDigits (whole ++ fraction), k - (fraction.length : Int)⟩ := by
  have hwhole : ∀ c ∈ whole, isDigit c = true := fun c hc => hd c (by simp [hc])
  have hfraction : ∀ c ∈ fraction, isDigit c = true := fun c hc => hd c (by simp [hc])
  have hmantissa : Mantissa (pointed whole fraction) whole fraction := by
    unfold pointed
    split_ifs with hempty
    · rw [List.isEmpty_iff.mp hempty, List.append_nil]
      exact .whole hw hwhole
    · exact .pointed hw hwhole hfraction
  exact spelling?_eq_some_iff.mpr
    ⟨[], .positive, _, _, _, _, _, .none, hmantissa, exponent?_eq_some_iff.mp htail, rfl, rfl⟩

/-- A minus sign before a spelling without a sign gives the opposite number. -/
theorem read?_minus (h : splitSign cs = (false, cs)) :
    read? ('-' :: cs) = (read? cs).map fun x => -x := by
  have hminus : splitSign ('-' :: cs) = (true, cs) := rfl
  simp only [read?, spelling?, h, hminus]
  split_ifs
  · rfl
  · cases exponent? (splitFraction (cs.dropWhile isDigit)).2 with
    | none => rfl
    | some e => simp [Spelling.value]

end digits

/-! ### Spelled values -/

section values

variable {x : Float} {cs whole fraction tail : List Char} {q : ℚ} {m : Nat} {e k : Int}

/-- Is the text a spelling of the value, without a sign? -/
structure Spells (cs : List Char) (q : ℚ) : Prop where
  /-- It has no sign. -/
  unsigned : splitSign cs = (false, cs)
  /-- Its parts have the value. -/
  exists_parts : ∃ digits exponent, spelling? cs = some ⟨false, digits, exponent⟩ ∧
    (digits : ℚ) * 10 ^ exponent = q

/-- Digits with at most one point, and perhaps an exponent behind them, spell their value. -/
theorem spells_pointed (hw : whole ≠ []) (hd : ∀ c ∈ whole ++ fraction, isDigit c = true)
    (htail : exponent? tail = some k) :
    Spells (pointed whole fraction ++ tail)
      (ofDigits (whole ++ fraction) * 10 ^ (k - (fraction.length : Int))) := by
  refine ⟨?_, _, _, spelling?_of_digits hw hd htail, rfl⟩
  obtain ⟨c, rest, rfl⟩ := List.exists_cons_of_ne_nil hw
  exact splitSign_of_isDigit (hd c (by simp)) _

/-- **A spelled value is read as the number that it rounds to.** -/
theorem Spells.read?_eq (h : Spells cs q) (hc : Canonical m e)
    (hx : unpacked x = .finite .positive m e hc.pos) (hq : Covers m e q) : read? cs = some x := by
  obtain ⟨-, digits, exponent, hspelling, rfl⟩ := h
  rw [read?, hspelling, Option.map_some, Spelling.value]
  simp only [nearest_eq hc hx hq]
  rfl

/-- A spelled zero is read as zero. -/
theorem Spells.read?_zero (h : Spells cs 0) : read? cs = some 0.0 := by
  obtain ⟨-, digits, exponent, hspelling, hzero⟩ := h
  obtain rfl : digits = 0 := by
    have hpow : (10 : ℚ) ^ exponent ≠ 0 := by positivity
    exact_mod_cast (mul_eq_zero.mp hzero).resolve_right hpow
  rw [read?, hspelling]
  rfl

/-- **Plain digits spell the decimal.** -/
theorem spells_writePlain (pointZero : Bool) (d : Decimal) :
    Spells (writePlain pointZero d).toList d.value := by
  obtain ⟨whole, fraction, htext, hw, hd, hval⟩ := writePlain_spec pointZero d
  have hspells := spells_pointed hw hd (show exponent? [] = some 0 from rfl)
  rwa [List.append_nil, Int.zero_sub, hval, ← htext] at hspells

/-- **An exponent is read back.** -/
theorem exponent?_text (exponentPlus : Bool) (k : Int) :
    exponent? ('e' :: ((if 0 ≤ k && exponentPlus then "+" else "") ++ toString k).toList) =
      some k := by
  obtain ⟨ds, htext, hne, hdigit, hof⟩ := exists_digits_int k
  have hempty : ds.isEmpty = false := by simpa using hne
  have hall : ds.all isDigit = true := List.all_eq_true.mpr hdigit
  rw [String.toList_append, htext]
  by_cases hneg : k < 0
  · have hminus : splitSign ('-' :: ds) = (true, ds) := rfl
    have hsize : -(ofDigits ds : Int) = k := by omega
    rw [if_neg (by simp [hneg]), if_pos hneg]
    show exponent? ('e' :: '-' :: ds) = some k
    simp [exponent?, hminus, hempty, hall, hsize]
  · have hsign : splitSign ds = (false, ds) := by
      obtain ⟨c, rest, rfl⟩ := List.exists_cons_of_ne_nil hne
      exact splitSign_of_isDigit (hdigit c (by simp)) rest
    have hplus : splitSign ('+' :: ds) = (false, ds) := rfl
    have hsize : (ofDigits ds : Int) = k := by omega
    rw [if_neg hneg]
    split_ifs
    · show exponent? ('e' :: '+' :: ds) = some k
      simp [exponent?, hplus, hempty, hall, hsize]
    · show exponent? ('e' :: ds) = some k
      simp [exponent?, hsign, hempty, hall, hsize]

/-- **Digits with an exponent spell the decimal.** -/
theorem spells_writeScientific (exponentPlus : Bool) (d : Decimal) :
    Spells (writeScientific exponentPlus d).toList d.value := by
  obtain ⟨ds, hds, hne, hdigit, hof⟩ := exists_digits d.digits
  obtain ⟨c, rest, rfl⟩ := List.exists_cons_of_ne_nil hne
  have hwhole : ∀ b ∈ [c] ++ rest, isDigit b = true := hdigit
  have hspells := spells_pointed (List.cons_ne_nil c []) hwhole
    (exponent?_text exponentPlus (d.exponent + ((c :: rest).length : Int) - 1))
  have hexponent : d.exponent + ((c :: rest).length : Int) - 1 - (rest.length : Int) =
      d.exponent := by
    rw [List.length_cons]
    omega
  rw [hexponent, List.singleton_append, hof] at hspells
  have htext : (writeScientific exponentPlus d).toList = pointed [c] rest ++
      'e' :: ((if 0 ≤ d.exponent + ((c :: rest).length : Int) - 1 && exponentPlus then "+"
        else "") ++ toString (d.exponent + ((c :: rest).length : Int) - 1)).toList := by
    simp only [writeScientific, hds, String.toList_ofList, List.take_succ_cons, List.take_zero,
      List.drop_succ_cons, List.drop_zero, String.toList_append, pointed]
    split_ifs <;> simp
  rwa [htext]

end values

/-! ### Numbers in a style -/

section styles

variable {x : Float}

/-- **A finite number is written without its sign so that its size is read back.** -/
theorem exists_read?_writeSize (style : Style) (hfin : isFinite x) :
    splitSign (style.writeSize x).toList = (false, (style.writeSize x).toList) ∧
      ∃ y, read? (style.writeSize x).toList = some y ∧ x = if isNegative x then -y else y := by
  have hbeq : (x == 0.0) = (unpacked x).beq (unpacked 0.0) := rfl
  rcases unpacked_of_isFinite hfin with hx | ⟨hc, hx⟩
  · have hzero : (x == 0.0) = true := by
      rw [hbeq, hx]
      cases sign x <;> rfl
    have hspells : Spells (style.writeSize x).toList 0 := by
      have h := spells_writePlain style.pointZero ⟨0, 0⟩
      rw [value, Nat.cast_zero, zero_mul] at h
      rwa [Style.writeSize, if_pos hzero]
    refine ⟨hspells.unsigned, 0.0, hspells.read?_zero, unpacked_injective ?_⟩
    rw [hx, sign]
    split_ifs <;> rfl
  · have hne : (x == 0.0) = false := by
      rw [hbeq, hx]
      cases sign x <;> rfl
    have hspells : Spells (style.writeSize x).toList (shortest style.tie x).value := by
      rw [Style.writeSize, if_neg (by rw [hne]; simp)]
      simp only
      split_ifs
      · exact spells_writePlain ..
      · exact spells_writeScientific ..
    have hsize := unpacked_finite hc .positive
    refine ⟨hspells.unsigned, _, hspells.read?_eq hc hsize (covers_shortest hc rfl style.tie),
      unpacked_injective ?_⟩
    rw [hx, sign]
    split_ifs
    · rw [unpacked_neg, hsize]
      rfl
    · exact hsize.symm

/-- **A finite number that is written in a style is read back.** -/
theorem read?_write (style : Style) (hfin : isFinite x) :
    read? (style.write x).toList = some x := by
  obtain ⟨hsign, y, hread, hx⟩ := exists_read?_writeSize style hfin
  have hwritten : read? (style.write x).toList = some (if isNegative x then -y else y) := by
    rw [Style.write, isNaN_of_isFinite hfin, hfin, if_neg (by simp), if_pos rfl,
      String.toList_append]
    split_ifs
    · show read? ('-' :: (style.writeSize x).toList) = some (-y)
      rw [read?_minus hsign, hread]
      rfl
    · exact hread
  exact hwritten.trans (congrArg some hx.symm)

end styles

/-! ### Numbers in plain digits -/

section plain

variable {x : Float}

/-- A finite number without a minus sign is written in plain digits. -/
theorem plain_eq (hfin : isFinite x) (hneg : isNegative x = false) :
    plain x = if x == 0.0 then writePlain false ⟨0, 0⟩ else writePlain false (shortest .up x) := by
  simp only [plain, Style.write, Style.writeSize, isNaN_of_isFinite hfin, hfin, hneg, plainStyle]
  simp

/-- **A finite number without a minus sign is read back**, from digits and at most one point. -/
theorem read?_plain (hfin : isFinite x) (hneg : isNegative x = false) :
    ∃ whole fraction, (plain x).toList = pointed whole fraction ∧ whole ≠ [] ∧
      (∀ c ∈ whole ++ fraction, isDigit c = true) ∧ read? (plain x).toList = some x := by
  obtain ⟨d, hd⟩ : ∃ d, plain x = writePlain false d := by
    rw [plain_eq hfin hneg]
    split_ifs
    · exact ⟨_, rfl⟩
    · exact ⟨_, rfl⟩
  obtain ⟨whole, fraction, htext, hw, hdigit, -⟩ := writePlain_spec false d
  rw [← hd] at htext
  exact ⟨whole, fraction, htext, hw, hdigit, read?_write plainStyle hfin⟩

end plain

end Decimal

end RecordFormula
