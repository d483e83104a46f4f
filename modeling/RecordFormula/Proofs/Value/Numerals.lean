import RecordFormula.Proofs.Number.Nearest
import RecordFormula.Proofs.Value.NumberTexts

/-!
# Numeric texts

A text has a number if, blanks around it left aside, it is empty, an infinity with a capital letter
or a numeral. Names and letters that other readers know stand for nothing here.

* **The number of a numeral is its value rounded** (`Decimal.Spelling.roundsTo`,
  `Decimal.Numeral.exists_read?`).
* **A text has a number exactly when it is spelled like one** (`Value.toNumber_text_spec`).
-/

namespace RecordFormula

open Number
open Float.Model.UnpackedFloat (Sign)

/-! ### The value of a numeral -/

namespace Decimal

variable {cs : List Char} {s : Sign} {q : ℚ}

/-- **Digits and an exponent are read as their value rounded.** -/
theorem roundsTo_nearest (digits : Nat) (exponent : Int) :
    RoundsTo .positive (digits * 10 ^ exponent) (nearest digits exponent) := by
  obtain ⟨m, e, hf, hq⟩ := exists_covers (q := digits * 10 ^ exponent) (by positivity)
  rw [nearest_eq_ofParts hf hq]
  exact roundsTo_ofParts hf hq

/-- So are they with a sign. -/
theorem Spelling.roundsTo (s : Sign) (digits : Nat) (exponent : Int) :
    RoundsTo s (digits * 10 ^ exponent)
      (Spelling.value ⟨s == .negative, digits, exponent⟩) := by
  have hsize := roundsTo_nearest digits exponent
  cases s with
  | negative => exact hsize.neg
  | positive => exact hsize

/-- **A numeral is read as its value rounded.** -/
theorem Numeral.exists_read? (h : Numeral cs s q) : ∃ x, read? cs = some x ∧ RoundsTo s q x := by
  obtain ⟨digits, exponent, hspelling, rfl⟩ := h.spelling?_eq
  exact ⟨_, by rw [read?, hspelling, Option.map_some], Spelling.roundsTo s digits exponent⟩

/-- **What is read is a numeral.** -/
theorem exists_numeral_of_read? {x : Float} (h : read? cs = some x) :
    ∃ s q, Numeral cs s q := by
  obtain ⟨p, hp, -⟩ := Option.map_eq_some_iff.mp h
  exact exists_numeral hp

end Decimal

/-! ### The number of a text -/

namespace Value

variable {t : String} {s : Sign} {q : ℚ}

/-- A text of blanks is zero. -/
theorem readNumber_of_empty (h : Text.trim t = "") : readNumber t = 0.0 := by
  simp [readNumber, h]

/-- Infinity is spelled with a capital letter, with or without a plus sign. -/
theorem readNumber_of_infinity (h : Text.trim t = "Infinity" ∨ Text.trim t = "+Infinity") :
    readNumber t = infinity := by
  rcases h with h | h <;> simp [readNumber, h]

/-- Its opposite is spelled with a minus sign. -/
theorem readNumber_of_negative_infinity (h : Text.trim t = "-Infinity") :
    readNumber t = -infinity := by
  simp [readNumber, h]

/-- A numeral is its value rounded. -/
theorem roundsTo_readNumber (h : Decimal.Numeral (Text.trim t).toList s q) :
    RoundsTo s q (readNumber t) := by
  obtain ⟨x, hread, hx⟩ := h.exists_read?
  rwa [readNumber_of_read?_trim hread]

/-- **A text has a number exactly when it is spelled like one**: the empty text is zero, the named
ones are infinite, and a numeral is its value rounded. Blanks around it do not matter. -/
theorem toNumber_text_spec (t : String) :
    (isNaN (toNumber (.text t)) = false ↔
      Text.trim t = "" ∨ Text.trim t = "Infinity" ∨ Text.trim t = "+Infinity" ∨
        Text.trim t = "-Infinity" ∨ ∃ s q, Decimal.Numeral (Text.trim t).toList s q) ∧
    (Text.trim t = "" → toNumber (.text t) = 0.0) ∧
    (Text.trim t = "Infinity" ∨ Text.trim t = "+Infinity" → toNumber (.text t) = infinity) ∧
    (Text.trim t = "-Infinity" → toNumber (.text t) = -infinity) ∧
    ∀ s q, Decimal.Numeral (Text.trim t).toList s q → RoundsTo s q (toNumber (.text t)) := by
  have hnumber : toNumber (.text t) = readNumber t := by rw [toNumber]
  rw [hnumber]
  refine ⟨⟨fun hnan => ?_, ?_⟩, readNumber_of_empty, readNumber_of_infinity,
    readNumber_of_negative_infinity, fun s q => roundsTo_readNumber⟩
  · by_contra! hother
    obtain ⟨hempty, hplain, hplus, hminus, hnumeral⟩ := hother
    have hread : Decimal.read? (Text.trim t).toList = none := by
      cases hread : Decimal.read? (Text.trim t).toList with
      | none => rfl
      | some x =>
        obtain ⟨s, q, h⟩ := Decimal.exists_numeral_of_read? hread
        exact absurd h (hnumeral s q)
    rw [isNaN_readNumber_of_none hempty (not_or.mpr ⟨hplain, hplus⟩) hminus hread] at hnan
    cases hnan
  · rintro (h | h | h | h | ⟨s, q, h⟩)
    · rw [readNumber_of_empty h]
      decide
    · rw [readNumber_of_infinity (.inl h)]
      decide
    · rw [readNumber_of_infinity (.inr h)]
      decide
    · rw [readNumber_of_negative_infinity h]
      decide
    · exact (roundsTo_readNumber h).isNaN_eq

example : (["inf", "nan", "0x10", "1_000", "+", ".", "e5", "٣"].all fun t =>
    isNaN (toNumber (.text t))) = true := by decide

end Value

end RecordFormula
