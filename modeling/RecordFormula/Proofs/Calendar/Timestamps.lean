import RecordFormula.Calendar.Writing
import RecordFormula.Proofs.Calendar.Readers
import RecordFormula.Proofs.Syntax.Scanning
import RecordFormula.Proofs.Text.Trimming

/-!
# Moments are read back

A moment is written with four digits for the year if these are enough, and with a sign else. With
four digits it is read back, down to the millisecond; with a sign the letter of universal time at
its end makes it unreadable.

* **A number filled up with zeros is read** with as many digits (`Scanner.exactly_padded`).
* **The text of a moment is the start of its millisecond**, if the year has four digits
  (`Moment.zoned_text`), **and else nothing** (`Moment.read?_text`).
-/

namespace RecordFormula

/-! ### Numbers -/

section digits

variable {width n : Nat}

/-- A number that is not too long is filled up to the width with digits that spell it. -/
theorem paddedDigits_spec (hwidth : 0 < width) (hn : n < 10 ^ width) :
    ∃ ds, (paddedDigits width n).toList = ds ∧ ds.length = width ∧
      (∀ d ∈ ds, Decimal.isDigit d = true) ∧ Decimal.ofDigits ds = n := by
  have hlength : (Nat.toDigits 10 n).length ≤ width :=
    (Nat.length_toDigits_le_iff (by decide) hwidth).mpr hn
  refine ⟨_, String.toList_ofList, ?_, fun d hd => ?_, ?_⟩
  · rw [List.length_append, List.length_replicate]
    omega
  · rcases List.mem_append.mp hd with hd | hd
    · rw [List.eq_of_mem_replicate hd]
      rfl
    · exact Nat.isDigit_of_mem_toDigits (by decide) (by decide) hd
  · rw [Decimal.ofDigits_zeros_append]
    exact Nat.ofDigitChars_ten_toDigits

end digits

namespace Scanner

variable {α : Type} {width n : Nat}

/-- **A number filled up with zeros** is read with as many digits. -/
theorem exactly_padded (hwidth : 0 < width) (hn : n < 10 ^ width) (rest : List Char) :
    exactly width ((paddedDigits width n).toList ++ rest) = some (n, rest) := by
  obtain ⟨ds, hds, rfl, hdigit, hof⟩ := paddedDigits_spec hwidth hn
  rw [hds, exactly]
  simp only [List.take_left, List.drop_left, hof]
  rw [if_pos ⟨trivial, List.all_eq_true.mpr hdigit⟩]

/-- What follows a number filled up with zeros is read next. -/
theorem exactly_bind_padded (hwidth : 0 < width) (hn : n < 10 ^ width) (f : Nat → Scanner α)
    (rest : List Char) :
    (exactly width >>= f) ((paddedDigits width n).toList ++ rest) = f n rest := by
  simp only [bind, StateT.bind, exactly_padded hwidth hn, Option.bind_some]

/-- What follows a mark is read next. -/
theorem mark_bind (c : Char) (f : Unit → Scanner α) (rest : List Char) :
    (mark c >>= f) (c :: rest) = f () rest := by
  simp only [bind, StateT.bind, mark, if_true, Option.bind_some]

/-- Three digits behind the point are milliseconds. -/
theorem fraction_padded (hn : n < 1000) :
    fraction ('.' :: ((paddedDigits 3 n).toList ++ ['Z'])) = some (n * 1000000, ['Z']) := by
  obtain ⟨ds, hds, hlength, hdigit, hof⟩ := paddedDigits_spec (by decide : 0 < 3) hn
  have htaken : digits (ds ++ ['Z']) = some (ds, ['Z']) := by
    rw [digits, List.takeWhile_append_of_pos hdigit, List.dropWhile_append_of_pos hdigit]
    simp [Decimal.isDigit]
  refine bind_eq_some.mpr ⟨_, _, rfl, bind_eq_some.mpr ⟨(), ds ++ ['Z'], by rw [hds]; rfl, ?_⟩⟩
  refine bind_eq_some.mpr ⟨ds, ['Z'], htaken, ?_⟩
  have hnanos : nanosOfDigits ds = n * 1000000 := by
    rw [nanosOfDigits, hlength, List.take_of_length_le (by omega), hof]
  split
  · cases hlength
  · rw [hnanos]
    rfl

end Scanner

/-! ### Moments -/

/-- The text of a year starts with a digit, or with a sign if four digits are not enough. -/
theorem Date.toList_yearText (year : Int) :
    ∃ c cs, (yearText year).toList = c :: cs ∧ isBlank c = false ∧
      (¬(0 ≤ year ∧ year ≤ 9999) → Decimal.isDigit c = false) := by
  unfold yearText
  split
  · rename_i hyear
    obtain ⟨ds, hds, hlength, hdigit, -⟩ :=
      paddedDigits_spec (by decide : 0 < 4) (by omega : year.natAbs < 10 ^ 4)
    obtain ⟨c, cs, rfl⟩ := List.exists_cons_of_length_pos (by omega : 0 < ds.length)
    have hblank := (Token.not_isBlank_of_isDigit (hdigit c (by simp))).1
    exact ⟨c, cs, hds, hblank, fun h => absurd hyear h⟩
  · rw [String.toList_append]
    split
    · exact ⟨'-', _, rfl, rfl, fun _ => rfl⟩
    · exact ⟨'+', _, rfl, rfl, fun _ => rfl⟩

namespace Moment

open Scanner

variable {m : Moment}

/-- Is the year one of those that four digits are enough for? -/
def HasPlainYear (m : Moment) : Prop := 0 ≤ m.date.year ∧ m.date.year ≤ 9999

instance : Decidable m.HasPlainYear := inferInstanceAs (Decidable (_ ∧ _))

/-- The text of a moment behind the year. -/
def textBehindYear (m : Moment) : List Char :=
  '-' :: ((paddedDigits 2 m.date.month).toList ++ '-' :: ((paddedDigits 2 m.date.day).toList ++
    'T' :: ((paddedDigits 2 (m.second / 3600)).toList ++
    ':' :: ((paddedDigits 2 (m.second / 60 % 60)).toList ++
    ':' :: ((paddedDigits 2 (m.second % 60 + m.nano / nanosPerSecond)).toList ++
    '.' :: ((paddedDigits 3 (m.nano % nanosPerSecond / 1000000)).toList ++ ['Z']))))))

/-- The text of a moment is that of its year, and the rest. -/
theorem toList_text (m : Moment) :
    m.text.toList = (Date.yearText m.date.year).toList ++ m.textBehindYear := by
  simp [text, Date.text, textBehindYear, String.toList_append]

/-- At its end stands the letter of universal time. -/
theorem exists_textBehindYear (m : Moment) : ∃ init, m.textBehindYear = init ++ ['Z'] := by
  rw [← List.getLast?_eq_some_iff]
  simp [textBehindYear, List.getLast?_cons, List.getLast?_append]

/-- **The text of a moment tells the start of its millisecond**, if four digits are enough for the
year. -/
theorem zoned_text (h : m.Proper) (hyear : m.HasPlainYear) :
    zoned.all? m.text.toList = some m.truncated := by
  obtain ⟨hpos, hle⟩ := hyear
  have hdate : m.date.Proper := Date.proper_ofNumber m.day
  have hyear : m.date.year.natAbs < 10 ^ 4 := by omega
  have hmonth : m.date.month < 10 ^ 2 := Nat.lt_of_le_of_lt hdate.month_le.2 (by decide)
  have hday : m.date.day < 10 ^ 2 :=
    Nat.lt_of_le_of_lt (Nat.le_trans hdate.day_le (Date.monthLength_le ..)) (by decide)
  have hhour : m.second / 3600 < 10 ^ 2 := by
    have hlt : m.second < 86400 := h.second_lt
    omega
  have hminute : m.second / 60 % 60 < 10 ^ 2 := by omega
  have hsecond : m.second % 60 + m.nano / nanosPerSecond < 10 ^ 2 := by
    have hlt : m.nano < 2 * 1000000000 := h.nano_lt
    rw [nanosPerSecond]
    omega
  have hmilli : m.nano % nanosPerSecond / 1000000 < 1000 := by
    rw [nanosPerSecond]
    omega
  have htold := h.ofParts?_parts (by rw [Date.firstYear]; omega) (by rw [Date.lastYear]; omega)
  have hread : zoned m.text.toList = some (m.truncated, []) := by
    rw [toList_text, Date.yearText, if_pos ⟨hpos, hle⟩, textBehindYear, zoned,
      exactly_bind_padded (by decide) hyear, mark_bind, exactly_bind_padded (by decide) hmonth,
      mark_bind, exactly_bind_padded (by decide) hday]
    refine bind_eq_some.mpr ⟨'T', _, rfl, ?_⟩
    rw [exactly_bind_padded (by decide) hhour, mark_bind, exactly_bind_padded (by decide) hminute,
      mark_bind, exactly_bind_padded (by decide) hsecond]
    refine bind_eq_some.mpr ⟨_, _, fraction_padded hmilli, ?_⟩
    refine bind_eq_some.mpr ⟨0, [], rfl, ?_⟩
    rw [Int.natAbs_of_nonneg hpos, htold]
    refine bind_eq_some.mpr ⟨m.truncated, [], rfl, ?_⟩
    rw [Int.neg_zero, h.truncated.shiftSeconds_zero]
    rfl
  rw [all?, hread]

/-- **The text of a moment is read as the start of its millisecond**, if four digits are enough for
the year, **and else not at all**. -/
theorem read?_text (h : m.Proper) :
    read? m.text = if m.HasPlainYear then some m.truncated else none := by
  obtain ⟨c, cs, hc, hblank, hsign⟩ := Date.toList_yearText m.date.year
  obtain ⟨init, hinit⟩ := exists_textBehindYear m
  have htext : m.text.toList = c :: ((cs ++ init) ++ ['Z']) := by
    rw [toList_text, hc, hinit, List.cons_append, List.append_assoc]
  unfold read?
  have hlast : m.text.toList.getLast? = some 'Z' := by
    rw [htext, ← List.cons_append, List.getLast?_concat]
  have htrim : Text.trim m.text = m.text := by
    refine Text.trim_of_ends (by simp [htext, hblank]) fun d hd => ?_
    obtain rfl := Option.some.inj (hlast.symm.trans hd)
    rfl
  rw [htrim]
  by_cases hyear : m.HasPlainYear
  · rw [if_pos hyear, forms, List.findSome?_cons, zoned_text h hyear]
  · rw [if_neg hyear, htext]
    exact findSome?_forms_eq_none (hsign hyear) (by simp)

end Moment

end RecordFormula
