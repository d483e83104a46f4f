import RecordFormula.Proofs.Calendar.Shifts
import RecordFormula.Proofs.Number.Value

/-!
# Shifting by months

A date shifted by months is in the month that is so many months later, on the same day of it or on
its last day if it is shorter; the time of the day stays. Years are shifted as twelve months each.

* `Moment.MonthsLater` — the one moment is so many months after the other. **Shifting leads there**
  if the date is kept (`Moment.shiftMonths?_eq_some_iff`).
* `Dates.HasParts` — the year, the month and the day that the functions of dates tell of a value.
* **What a shift by months gives** (`Dates.shift_months_eq_text_iff`), and that a shift by years is
  one by months (`Dates.shift_years_eq`).
* **Shifts by months and years are those of the calendar** (`Dates.shift_calendar`).
-/

namespace RecordFormula

/-! ### Dates -/

namespace Date

variable {d d' : Date} {n : Int}

/-- Every month has at least four weeks. -/
theorem le_monthLength {month : Nat} (h : 1 ≤ month ∧ month ≤ 12) (year : Int) :
    28 ≤ monthLength year month := by
  have hall : ∀ l ∈ monthLengths year, 28 ≤ l := by
    unfold monthLengths
    cases isLeapYear year <;> decide
  have hlt : month - 1 < (monthLengths year).length := by
    have hlength : (monthLengths year).length = 12 := rfl
    omega
  rw [monthLength_eq h.1, List.getElem?_eq_getElem hlt]
  exact hall _ (List.getElem_mem hlt)

/-- The months of a shifted date are numbered from 1 to 12. -/
theorem month_shiftMonths (d : Date) (n : Int) :
    1 ≤ (d.shiftMonths n).month ∧ (d.shiftMonths n).month ≤ 12 := by
  simp only [shiftMonths]
  omega

/-- **A shifted date is one of the calendar.** -/
theorem Proper.shiftMonths (h : d.Proper) (n : Int) : (d.shiftMonths n).Proper := by
  have hlength := le_monthLength (d.month_shiftMonths n) (d.shiftMonths n).year
  have hday : (d.shiftMonths n).day =
      min d.day (monthLength (d.shiftMonths n).year (d.shiftMonths n).month) := rfl
  have hpos := h.day_pos
  exact ⟨by omega, by omega⟩

/-- A date is the shifted one if its month, counted from the year 0, is so many months later, and
its day is the same or the last of a shorter month. -/
theorem eq_shiftMonths_iff (hd : 1 ≤ d'.month ∧ d'.month ≤ 12) :
    d' = d.shiftMonths n ↔
      12 * d'.year + (d'.month : Int) = 12 * d.year + (d.month : Int) + n ∧
        d'.day = min d.day (monthLength d'.year d'.month) := by
  constructor
  · rintro rfl
    refine ⟨?_, rfl⟩
    simp only [shiftMonths]
    omega
  · rintro ⟨hmonths, hday⟩
    obtain ⟨year, month, day⟩ := d'
    simp only at hd hmonths hday
    have hyear : (d.shiftMonths n).year = year := by
      simp only [shiftMonths]
      omega
    have hmonth : (d.shiftMonths n).month = month := by
      simp only [shiftMonths]
      omega
    have hlast : (d.shiftMonths n).day =
        min d.day (monthLength (d.shiftMonths n).year (d.shiftMonths n).month) := rfl
    rw [hyear, hmonth, ← hday] at hlast
    rw [← hyear, ← hmonth, ← hlast]

end Date

/-! ### Moments -/

namespace Moment

variable {m s : Moment} {n : Int}

/-- Is the second moment so many months after the first one? -/
structure MonthsLater (m : Moment) (n : Int) (s : Moment) : Prop where
  /-- It is in the month that is so many months later. -/
  months_eq : 12 * s.date.year + (s.date.month : Int) =
    12 * m.date.year + (m.date.month : Int) + n
  /-- It is on the same day of the month, or on the last one if the month is shorter. -/
  day_eq : s.date.day = min m.date.day (Date.monthLength s.date.year s.date.month)
  /-- It is in the same second of the day. -/
  second_eq : s.second = m.second
  /-- It is in the same nanosecond. -/
  nano_eq : s.nano = m.nano

/-- **Shifting by months leads to the moment so many months later**, if its date is kept. -/
theorem shiftMonths?_eq_some_iff : m.shiftMonths? n = some s ↔ m.MonthsLater n s ∧ s.IsKept := by
  have hproper := (Date.proper_ofNumber m.day).shiftMonths n
  have hmonth := (Date.proper_ofNumber s.day).month_le
  rw [shiftMonths?, Option.ite_none_right_eq_some, Option.some_inj]
  constructor
  · rintro ⟨hkept, rfl⟩
    have hdate : date { m with day := (m.date.shiftMonths n).number } = m.date.shiftMonths n :=
      hproper.ofNumber_number
    obtain ⟨hmonths, hday⟩ := (Date.eq_shiftMonths_iff (m.date.month_shiftMonths n)).mp rfl
    refine ⟨⟨?_, ?_, rfl, rfl⟩, ?_⟩
    · rw [hdate]
      exact hmonths
    · rw [hdate]
      exact hday
    · rw [IsKept, hdate]
      exact hkept
  · rintro ⟨⟨hmonths, hday, hsecond, hnano⟩, hkept⟩
    have hdate : s.date = m.date.shiftMonths n :=
      (Date.eq_shiftMonths_iff hmonth).mpr ⟨hmonths, hday⟩
    refine ⟨hdate ▸ hkept, ?_⟩
    obtain ⟨day, second, nano⟩ := s
    simp only at hsecond hnano
    rw [← hdate, date, Date.number_ofNumber, hsecond, hnano]

/-- A clock shows it if it shows the first one. -/
theorem MonthsLater.proper (h : m.MonthsLater n s) (hm : m.Proper) : s.Proper := by
  refine ⟨?_, ?_, ?_⟩
  · rw [h.second_eq]
    exact hm.second_lt
  · rw [h.nano_eq]
    exact hm.nano_lt
  · rw [h.second_eq, h.nano_eq]
    exact hm.leap

/-- The year of a moment that is near 1970. -/
theorem IsNear.natAbs_year_lt (h : m.IsNear) : m.date.year.natAbs < 300000 := by
  have hnumber : m.date.number = m.day := Date.number_ofNumber m.day
  obtain ⟨hle, hlt⟩ := (Date.proper_ofNumber m.day).number_bounds
  rw [Date.number_ofNumber] at hle hlt
  simp only [IsNear, Date.daysBeforeYear, Date.epochDays] at h hle hlt
  show (Date.ofNumber m.day).year.natAbs < 300000
  omega

/-- Between two moments near 1970 there are not too many months. -/
theorem MonthsLater.natAbs_lt (h : m.MonthsLater n s) (hm : m.IsNear) (hs : s.IsNear) :
    n.natAbs < 2 ^ 53 := by
  have hmonths := h.months_eq
  have hyear := hm.natAbs_year_lt
  have hyear' := hs.natAbs_year_lt
  have hmonth := (Date.proper_ofNumber m.day).month_le
  have hmonth' := (Date.proper_ofNumber s.day).month_le
  simp only [date] at hmonths hyear hyear'
  omega

end Moment

namespace Dates

open Number (IsWhole)

variable {args args' : List Value} {v : Value} {m s : Moment} {x y : Float} {n : Int} {r : String}

/-! ### Amounts -/

/-- The whole part of a whole number is the integer, or the nearest one in range. -/
theorem whole_of_isWhole (h : IsWhole x n) :
    whole x = max (-9223372036854775808) (min 9223372036854775807 n) := by
  have hnan : Number.isNaN x = false := Number.isNaN_of_isFinite h.isFinite
  simp [whole, Number.clampToInt, hnan, h.isFinite, h.truncate_eq]

/-- The whole part of a small whole number is the integer. -/
theorem whole_eq (h : IsWhole x n) (hn : n.natAbs < 2 ^ 53) : whole x = n := by
  rw [whole_of_isWhole h]
  omega

/-- **A whole number of months** leads to the moment that is so many months later, if its date is
kept. An amount beyond 64 bits leads nowhere, and neither does the nearest one in range. -/
theorem shiftMonths?_whole (hm : m.IsNear) (h : IsWhole x n) :
    m.shiftMonths? (whole x) = some s ↔ m.MonthsLater n s ∧ s.IsKept := by
  rw [Moment.shiftMonths?_eq_some_iff]
  constructor
  · rintro ⟨hlater, hkept⟩
    have hlt := hlater.natAbs_lt hm hkept.near
    have hn : whole x = n := by
      rw [whole_of_isWhole h] at hlt ⊢
      omega
    exact ⟨hn ▸ hlater, hkept⟩
  · rintro ⟨hlater, hkept⟩
    rw [whole_eq h (hlater.natAbs_lt hm hkept.near)]
    exact ⟨hlater, hkept⟩

/-! ### What the functions of dates tell -/

/-- The functions of dates tell the year, the month and the day of the value. -/
def HasParts (v : Value) (d : Date) : Prop :=
  ∀ rest, year (v :: rest) = .number (Float.ofInt d.year) ∧
    month (v :: rest) = .number (Float.ofInt d.month) ∧
    day (v :: rest) = .number (Float.ofInt d.day)

/-- They tell those of its moment. -/
theorem hasParts_of_moment? (h : moment? v = some m) : HasParts v m.date := by
  intro rest
  have hfirst : Arguments.value (v :: rest) 0 = v := rfl
  unfold year month day
  rw [hfirst, h]
  exact ⟨rfl, rfl, rfl⟩

/-! ### Shifts -/

/-- A finite amount moves a date. -/
theorem shifted?_of_isFinite (h : Number.isFinite (Arguments.number args 1)) :
    shifted? args = (moment? (Arguments.value args 0)).bind fun m =>
      shiftBy m (Arguments.number args 1) (TimeUnit.ofName? (Arguments.text args 2)) := by
  simp only [shifted?, if_pos h]

/-- **What a shift by months gives**: the text of the moment that is so many months later, if its
date is kept, and nothing else. -/
theorem shift_months_eq_text_iff (hm : moment? (Arguments.value args 0) = some m)
    (hn : IsWhole (Arguments.number args 1) n)
    (hunit : TimeUnit.ofName? (Arguments.text args 2) = some .months) :
    shift args = .text r ↔ ∃ s, m.MonthsLater n s ∧ s.IsKept ∧ r = s.text := by
  have hshifted : shifted? args = m.shiftMonths? (whole (Arguments.number args 1)) := by
    rw [shifted?_of_isFinite hn.isFinite, hm, Option.bind_some, hunit, shiftBy]
  have hnear := (told_moment? hm).near
  rw [shift_eq_written, hshifted]
  constructor
  · intro h
    cases hs : m.shiftMonths? (whole (Arguments.number args 1)) with
    | none =>
      rw [hs, written] at h
      cases h
    | some s =>
      rw [hs, written, Value.text.injEq] at h
      obtain ⟨hlater, hkept⟩ := (shiftMonths?_whole hnear hn).mp hs
      exact ⟨s, hlater, hkept, h.symm⟩
  · rintro ⟨s, hlater, hkept, rfl⟩
    rw [(shiftMonths?_whole hnear hn).mpr ⟨hlater, hkept⟩, written]

/-- **A shift by years** is one by twelve months each. -/
theorem shift_years_eq (hvalue : Arguments.value args 0 = Arguments.value args' 0)
    (hyears : IsWhole (Arguments.number args 1) n)
    (hmonths : IsWhole (Arguments.number args' 1) (12 * n)) (hn : (12 * n).natAbs < 2 ^ 53)
    (hunit : TimeUnit.ofName? (Arguments.text args 2) = some .years)
    (hunit' : TimeUnit.ofName? (Arguments.text args' 2) = some .months) :
    shift args = shift args' := by
  have hamount : 12 * whole (Arguments.number args 1) = whole (Arguments.number args' 1) := by
    rw [whole_eq hyears (by omega), whole_eq hmonths hn]
  rw [shift_eq_written, shift_eq_written, shifted?_of_isFinite hyears.isFinite,
    shifted?_of_isFinite hmonths.isFinite, hvalue, hunit, hunit']
  simp only [shiftBy, hamount]

/-- **Shifts by months and years are those of the calendar.**

* Where a shift of a date by a whole number of months gives a text, the text is that of the moment
  which is so many months later: months are counted on, the day stays or becomes the last one of a
  shorter month, and the time of the day stays. If four digits are enough for its year, the
  functions of dates read this text, and tell the year, the month and the day of that moment, as
  they tell those of the date itself; the time of the day is the same to the millisecond.
* A shift by a whole number of years gives what the shift by twelve times as many months gives: null
  or a text. -/
theorem shift_calendar :
    (∀ args n r, IsWhole (Arguments.number args 1) n →
      TimeUnit.ofName? (Arguments.text args 2) = some .months → shift args = .text r →
      ∃ m s, moment? (Arguments.value args 0) = some m ∧ m.MonthsLater n s ∧ r = s.text ∧
        HasParts (Arguments.value args 0) m.date ∧
        (s.HasPlainYear → moment? (.text r) = some s.truncated ∧ HasParts (.text r) s.date)) ∧
    ∀ args args' n, Arguments.value args 0 = Arguments.value args' 0 →
      IsWhole (Arguments.number args 1) n → IsWhole (Arguments.number args' 1) (12 * n) →
      (12 * n).natAbs < 2 ^ 53 → TimeUnit.ofName? (Arguments.text args 2) = some .years →
      TimeUnit.ofName? (Arguments.text args' 2) = some .months →
      shift args = shift args' ∧ (shift args = .null ∨ ∃ r, shift args = .text r) := by
  refine ⟨fun args n r hn hunit hr => ?_, fun args args' n hvalue hx hy hn hunit hunit' => ?_⟩
  · obtain ⟨m, hm⟩ : ∃ m, moment? (Arguments.value args 0) = some m := by
      refine Option.ne_none_iff_exists'.mp fun hnone => ?_
      rw [shift_eq_written, shifted?, hnone] at hr
      cases hr
    obtain ⟨s, hlater, hkept, rfl⟩ := (shift_months_eq_text_iff hm hn hunit).mp hr
    refine ⟨m, s, hm, hlater, rfl, hasParts_of_moment? hm, fun hyear => ?_⟩
    have hread : moment? (.text s.text) = some s.truncated := by
      rw [moment?, Moment.read?_text (hlater.proper (told_moment? hm).toProper), if_pos hyear]
    have hparts : HasParts (.text s.text) s.truncated.date := hasParts_of_moment? hread
    exact ⟨hread, hparts⟩
  · refine ⟨shift_years_eq hvalue hx hy hn hunit hunit', ?_⟩
    rw [shift_eq_written]
    cases shifted? args with
    | none => exact .inl rfl
    | some s => exact .inr ⟨s.text, rfl⟩

/-- Thirteen months after the last of January 2023 is the last of February 2024, and a year before
that day is twelve months before it. -/
theorem shift_calendar_leap :
    (∃ m s, moment? (.text "2023-01-31T10:30:00.250Z") = some m ∧ m.MonthsLater 13 s ∧
      s.text = "2024-02-29T10:30:00.250Z" ∧ HasParts (.text "2024-02-29T10:30:00.250Z") s.date) ∧
    shift [.text "2024-02-29", .number (-1), .text "years"] =
      shift [.text "2024-02-29", .number (-12), .text "months"] := by
  let args : List Value := [.text "2023-01-31T10:30:00.250Z", .number 13, .text "months"]
  let years : List Value := [.text "2024-02-29", .number (-1), .text "years"]
  let months : List Value := [.text "2024-02-29", .number (-12), .text "months"]
  have hthirteen : IsWhole (Arguments.number args 1) 13 :=
    Number.isWhole_ofNat (n := 13) (by decide)
  have hone : IsWhole (Arguments.number years 1) (-1) :=
    (Number.isWhole_ofNat (n := 1) (by decide)).neg
  have htwelve : IsWhole (Arguments.number months 1) (12 * -1) :=
    (Number.isWhole_ofNat (n := 12) (by decide)).neg
  have hshift : shift [.text "2023-01-31T10:30:00.250Z", .number 13, .text "months"] =
      .text "2024-02-29T10:30:00.250Z" := rfl
  have hunit : TimeUnit.ofName? (Arguments.text args 2) = some .months := by decide +kernel
  have hyear : TimeUnit.ofName? (Arguments.text years 2) = some .years := by decide +kernel
  have hmonth : TimeUnit.ofName? (Arguments.text months 2) = some .months := by decide +kernel
  have hfirst : Arguments.value years 0 = .text "2024-02-29" := rfl
  have hfirst' : Arguments.value months 0 = .text "2024-02-29" := rfl
  obtain ⟨hcalendar, hyears⟩ := shift_calendar
  obtain ⟨m, s, hm, hlater, htext, -, hplain⟩ := hcalendar args 13 _ hthirteen hunit hshift
  have hplainYear : s.HasPlainYear := by
    have hread : (moment? (.text "2024-02-29T10:30:00.250Z")).isSome = true := by decide +kernel
    have hproper := hlater.proper (told_moment? hm).toProper
    by_contra hyear
    rw [htext, moment?, Moment.read?_text hproper, if_neg hyear] at hread
    cases hread
  exact ⟨⟨m, s, hm, hlater, htext.symm, (hplain hplainYear).2⟩,
    (hyears years months (-1) (hfirst.trans hfirst'.symm) hone htwelve (by decide) hyear hmonth).1⟩

end Dates

end RecordFormula
