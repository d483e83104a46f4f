import RecordFormula.Function.Dates
import RecordFormula.Proofs.Calendar.Timestamps

/-!
# A shifted date as a date

The text of a shifted date is an argument for the functions of dates again. It stands for the start
of the millisecond of the shifted moment as long as four digits are enough for its year; later, and
before the year 0, it is the text of a moment that no function can read.

* **Where the functions have nothing to say**: for a text without a date, a shift out of range, or
  an amount that is not finite (`Dates.year_eq_null_iff` and the others).
* **What a shift gives is read back** exactly within those years (`Dates.moment?_shift`).
-/

namespace RecordFormula

namespace Dates

variable {args : List Value} {v : Value} {s : String} {m m' : Moment} {amount : Float}
  {unit : Option TimeUnit}

/-! ### The moments of arguments -/

/-- The moment of an argument is one that a clock shows, near the dates that are kept. -/
theorem told_moment? (h : moment? v = some m) : m.Told := by
  unfold moment? at h
  split at h
  · split at h
    · exact Moment.told_ofMilliseconds? h
    · cases h
  · exact Moment.told_of_read? h
  · cases h

/-- So is one that is shifted by a number of units. -/
theorem proper_shiftBy (hm : m.Proper) (h : shiftBy m amount unit = some m') : m'.Proper := by
  unfold shiftBy at h
  split at h
  · exact hm.shiftMilliseconds? h
  · exact hm.shiftMonths? h
  · exact hm.shiftMonths? h
  · cases h
    exact hm

/-! ### Where there is nothing to say -/

/-- A date has a year. -/
theorem year_eq_null_iff : year args = .null ↔ moment? (Arguments.value args 0) = none := by
  unfold year
  cases moment? (Arguments.value args 0) <;> simp [orNull]

/-- A date has a month. -/
theorem month_eq_null_iff : month args = .null ↔ moment? (Arguments.value args 0) = none := by
  unfold month
  cases moment? (Arguments.value args 0) <;> simp [orNull]

/-- A date has a day of the month. -/
theorem day_eq_null_iff : day args = .null ↔ moment? (Arguments.value args 0) = none := by
  unfold day
  cases moment? (Arguments.value args 0) <;> simp [orNull]

/-- There is some time between any two dates. -/
theorem difference_eq_null_iff : difference args = .null ↔
    moment? (Arguments.value args 0) = none ∨ moment? (Arguments.value args 1) = none := by
  unfold difference
  cases moment? (Arguments.value args 0) with
  | none => simp
  | some a =>
    cases moment? (Arguments.value args 1) with
    | none => simp
    | some b =>
      simp only
      split <;> simp

/-- The moment that a shift leads to, if there are a date and a finite amount. -/
def shifted? (args : List Value) : Option Moment :=
  (moment? (Arguments.value args 0)).bind fun m =>
    if Number.isFinite (Arguments.number args 1) then
      shiftBy m (Arguments.number args 1) (TimeUnit.ofName? (Arguments.text args 2))
    else none

/-- **A shift gives** the text of the moment that it leads to. -/
theorem shift_eq_written (args : List Value) : shift args = written (shifted? args) := by
  unfold shift shifted?
  cases moment? (Arguments.value args 0) with
  | none => rfl
  | some m =>
    simp only [Option.bind_some]
    split
    · rfl
    · rfl

/-- It gives null if it leads nowhere. -/
theorem shift_eq_null_iff : shift args = .null ↔ shifted? args = none := by
  rw [shift_eq_written]
  cases shifted? args <;> simp [written]

/-- A shift leads to a moment that a clock shows. -/
theorem proper_shifted? (h : shifted? args = some m) : m.Proper := by
  obtain ⟨m₀, hm₀, hshift⟩ := Option.bind_eq_some_iff.mp h
  split at hshift
  · exact proper_shiftBy (told_moment? hm₀).toProper hshift
  · cases hshift

/-! ### The text of a shifted date -/

/-- **What a shift gives is read back** as the start of the millisecond of the moment that it leads
to, if four digits are enough for its year; else the text has no date. Hence the functions of dates
have nothing to say about the text in the second case, and in the first only where they have nothing
to say about that moment. -/
theorem moment?_shift (h : shift args = .text s) :
    ∃ m, shifted? args = some m ∧ s = m.text ∧
      moment? (.text s) = (if m.HasPlainYear then some m.truncated else none) ∧
      ∀ rest,
        (year (.text s :: rest) = .null ↔ ¬m.HasPlainYear) ∧
        (month (.text s :: rest) = .null ↔ ¬m.HasPlainYear) ∧
        (day (.text s :: rest) = .null ↔ ¬m.HasPlainYear) ∧
        (∀ v, difference (.text s :: v :: rest) = .null ↔ ¬m.HasPlainYear ∨ moment? v = none) ∧
        (∀ v, difference (v :: .text s :: rest) = .null ↔ moment? v = none ∨ ¬m.HasPlainYear) ∧
        (shift (.text s :: rest) = .null ↔ ¬m.HasPlainYear ∨
          Number.isFinite (Arguments.number (.text s :: rest) 1) = false ∨
          shiftBy m.truncated (Arguments.number (.text s :: rest) 1)
            (TimeUnit.ofName? (Arguments.text (.text s :: rest) 2)) = none) := by
  rw [shift_eq_written] at h
  obtain ⟨m, hm, rfl⟩ : ∃ m, shifted? args = some m ∧ s = m.text := by
    cases hm : shifted? args with
    | none =>
      rw [hm, written] at h
      cases h
    | some m =>
      rw [hm, written, Value.text.injEq] at h
      exact ⟨m, rfl, h.symm⟩
  have hread : moment? (.text m.text) = if m.HasPlainYear then some m.truncated else none := by
    rw [moment?, Moment.read?_text (proper_shifted? hm)]
  have hfirst (rest : List Value) : Arguments.value (.text m.text :: rest) 0 = .text m.text := rfl
  have hnone : moment? (.text m.text) = none ↔ ¬m.HasPlainYear := by
    rw [hread]
    split <;> simp_all
  refine ⟨m, hm, rfl, hread, fun rest => ⟨?_, ?_, ?_, fun v => ?_, fun v => ?_, ?_⟩⟩
  · rw [year_eq_null_iff, hfirst, hnone]
  · rw [month_eq_null_iff, hfirst, hnone]
  · rw [day_eq_null_iff, hfirst, hnone]
  · rw [difference_eq_null_iff, hfirst, hnone]
    rfl
  · have hsecond : Arguments.value (v :: .text m.text :: rest) 1 = .text m.text := rfl
    rw [difference_eq_null_iff, hsecond, hnone]
    rfl
  · rw [shift_eq_null_iff, shifted?, hfirst, hread]
    by_cases hyear : m.HasPlainYear <;> simp [hyear, or_iff_not_imp_left]

/-- A month after the last of January is the last of February, and it can be read. -/
theorem moment?_shift_month :
    shift [.text "2024-01-31", .number 1, .text "months"] = .text "2024-02-29T00:00:00.000Z" ∧
      moment? (.text "2024-02-29T00:00:00.000Z") = some ⟨19782, 0, 0⟩ ∧
      year [.text "2024-02-29T00:00:00.000Z"] ≠ .null := by
  have h : shift [.text "2024-01-31", .number 1, .text "months"] =
      .text "2024-02-29T00:00:00.000Z" := rfl
  obtain ⟨m, hm, -, hread, hnull⟩ := moment?_shift h
  have hshifted : shifted? [.text "2024-01-31", .number 1, .text "months"] =
      some ⟨19782, 0, 0⟩ := by decide +kernel
  have hyear : Moment.HasPlainYear ⟨19782, 0, 0⟩ := by decide +kernel
  rw [hshifted] at hm
  cases hm
  rw [if_pos hyear] at hread
  exact ⟨h, hread, fun hy => (hnull []).1.mp hy hyear⟩

/-- The year 10000 has a date as a number of milliseconds, and none as the text of a shift that does
not move it. -/
theorem moment?_shift_weeks :
    shift [.number 253402300800000, .number 3, .text "weeks"] =
        .text "+10000-01-01T00:00:00.000Z" ∧
      moment? (.number 253402300800000) = some ⟨2932897, 0, 0⟩ ∧
      moment? (.text "+10000-01-01T00:00:00.000Z") = none ∧
      year [.number 253402300800000] = .number 10000 ∧
      year [.text "+10000-01-01T00:00:00.000Z"] = .null := by
  have hread : moment? (.number 253402300800000) = some ⟨2932897, 0, 0⟩ := by decide +kernel
  have hyear : year [.number 253402300800000] = .number 10000 := by
    have hnumber : Float.ofInt 10000 = 10000 := by decide +kernel
    have hdate : (Moment.date ⟨2932897, 0, 0⟩).year = 10000 := by decide +kernel
    have hfirst : Arguments.value [.number 253402300800000] 0 = .number 253402300800000 := rfl
    rw [year, hfirst, hread, Option.map_some, hdate, orNull, hnumber]
  exact ⟨rfl, hread, by decide +kernel, hyear, rfl⟩

end Dates

end RecordFormula
