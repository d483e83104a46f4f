import RecordFormula.Calendar.Date

/-!
# Days and their numbers

A number is the number of one day: the year is found from the mean length of a year, and the month
by counting off the months of that year.

* **Counting off months** leads to the month in which a day is (`Date.monthAndDay_spec`).
* **The year of a number** is the one in which the day is (`Date.daysBeforeYear_yearOf`).
* `Date.Proper` — a date that the calendar has. **The day of a number is one**
  (`Date.proper_ofNumber`), **and its number is that number** (`Date.number_ofNumber`); **the day
  of its number is the date itself** (`Date.Proper.ofNumber_number`).
-/

namespace RecordFormula

namespace Date

variable {year n : Int} {month day k : Nat}

/-! ### Months -/

/-- The days of the months with the given lengths, together. -/
def total (lengths : List Nat) : Nat := lengths.foldr (· + ·) 0

/-- **The month and the day of the month of the `k`-th day** from zero: the days of the months
before it and those before it in its month make up `k`. -/
theorem monthAndDay_spec {lengths : List Nat} {first : Nat} (hk : k < total lengths) :
    ∃ i day, monthAndDay first k lengths = (first + i, day + 1) ∧
      day < lengths[i]?.getD 0 ∧ total (lengths.take i) + day = k := by
  induction lengths generalizing first k with
  | nil => exact absurd hk (Nat.not_lt_zero k)
  | cons length rest ih =>
    by_cases hlt : k < length
    · exact ⟨0, k, by simp [monthAndDay, hlt], hlt, by simp [total]⟩
    · have hrest : k - length < total rest := by
        have hcons : total (length :: rest) = length + total rest := rfl
        omega
      obtain ⟨i, day, heq, hday, hsum⟩ := @ih (k - length) (first + 1) hrest
      refine ⟨i + 1, day, ?_, hday, ?_⟩
      · rw [monthAndDay, if_neg hlt, heq, Nat.add_right_comm, Nat.add_assoc]
      · have hcons : total ((length :: rest).take (i + 1)) = length + total (rest.take i) := rfl
        omega

/-- The months of a year make up the year. -/
theorem total_monthLengths (year : Int) :
    total (monthLengths year) = if isLeapYear year then 366 else 365 := by
  unfold monthLengths
  cases isLeapYear year <;> rfl

/-- No month has more than thirty-one days. -/
theorem monthLength_le (year : Int) (month : Nat) : monthLength year month ≤ 31 := by
  unfold monthLength
  split
  · exact Nat.zero_le _
  · cases h : (monthLengths year)[month - 1]? with
    | none => exact Nat.zero_le _
    | some length =>
      have hmem : length ∈ monthLengths year := List.mem_of_getElem? h
      have hle : ∀ l ∈ monthLengths year, l ≤ 31 := by
        unfold monthLengths
        cases isLeapYear year <;> decide
      exact hle length hmem

/-- A month that has days is one of twelve. -/
theorem month_of_monthLength_pos (h : 0 < monthLength year month) : 1 ≤ month ∧ month ≤ 12 := by
  unfold monthLength at h
  split at h
  · exact absurd h (Nat.lt_irrefl 0)
  · rcases Nat.lt_or_ge (month - 1) (monthLengths year).length with hlt | hge
    · have hlength : (monthLengths year).length = 12 := rfl
      omega
    · rw [List.getElem?_eq_none hge] at h
      exact absurd h (Nat.lt_irrefl 0)

/-! ### Years -/

/-- The first of January comes after the months of the year before. -/
theorem daysBeforeYear_succ (year : Int) :
    daysBeforeYear (year + 1) = daysBeforeYear year + (total (monthLengths year) : Int) := by
  rw [total_monthLengths]
  unfold daysBeforeYear isLeapYear
  simp only [beq_iff_eq, bne_iff_ne, ne_eq, Bool.and_eq_true, Bool.or_eq_true]
  split <;> omega

/-- **The year of a number**: its first day is not after the day of the number, and that of the next
year is. -/
theorem daysBeforeYear_yearOf (n : Int) :
    daysBeforeYear (yearOf n) ≤ n ∧ n < daysBeforeYear (yearOf n + 1) := by
  unfold yearOf
  simp only
  generalize hk : 400 * n / 146097 = k
  -- the mean length of a year misses by one year at most
  have hbefore : daysBeforeYear k ≤ n := by
    simp only [daysBeforeYear]
    omega
  have hafter : n < daysBeforeYear (k + 1 + 1 + 1) := by
    simp only [daysBeforeYear]
    omega
  split
  · rw [Int.add_sub_cancel]
    exact ⟨hbefore, by assumption⟩
  · split
    · exact ⟨by assumption, hafter⟩
    · exact ⟨by omega, by omega⟩

/-! ### Dates -/

/-- Does the calendar have the date? -/
structure Proper (d : Date) : Prop where
  /-- The day is the first of the month or later. -/
  day_pos : 1 ≤ d.day
  /-- It is not after the last day of the month. -/
  day_le : d.day ≤ monthLength d.year d.month

namespace Proper

variable {d : Date} (h : d.Proper)

include h

/-- The month is one of twelve. -/
theorem month_le : 1 ≤ d.month ∧ d.month ≤ 12 :=
  month_of_monthLength_pos (Nat.le_trans h.day_pos h.day_le)

/-- It is one of the dates that are kept, unless the year is not. -/
theorem ofParts? (hfirst : firstYear ≤ d.year) (hlast : d.year ≤ lastYear) :
    ofParts? d.year d.month d.day = some d := by
  rw [Date.ofParts?, if_pos ⟨hfirst, hlast, h.day_pos, h.day_le⟩]

end Proper

/-- The day of a number, from its year and the day of that year. -/
theorem ofNumber_spec (n : Int) :
    ∃ year i day, ofNumber n = ⟨year, i + 1, day + 1⟩ ∧ day < (monthLengths year)[i]?.getD 0 ∧
      daysBeforeYear year + (total ((monthLengths year).take i) + day : Nat) = n + epochDays := by
  obtain ⟨hle, hlt⟩ := daysBeforeYear_yearOf (n + epochDays)
  generalize hyear : yearOf (n + epochDays) = year at hle hlt
  rw [daysBeforeYear_succ] at hlt
  have hk : (n + epochDays - daysBeforeYear year).toNat < total (monthLengths year) := by
    omega
  obtain ⟨i, day, heq, hday, hsum⟩ := @monthAndDay_spec _ _ 1 hk
  refine ⟨year, i, day, ?_, hday, by omega⟩
  rw [ofNumber]
  simp only [hyear, heq, Nat.add_comm 1 i]

/-- **The day of a number is a date of the calendar.** -/
theorem proper_ofNumber (n : Int) : (ofNumber n).Proper := by
  obtain ⟨year, i, day, heq, hday, -⟩ := ofNumber_spec n
  rw [heq]
  exact ⟨Nat.le_add_left 1 day, hday⟩

/-- **The number of the day of a number** is that number. -/
@[simp] theorem number_ofNumber (n : Int) : (ofNumber n).number = n := by
  obtain ⟨year, i, day, heq, -, hsum⟩ := ofNumber_spec n
  rw [heq, number]
  have hmonths : daysBeforeMonth year (i + 1) = total ((monthLengths year).take i) := rfl
  simp only [hmonths]
  omega

/-! ### Dates from numbers and back -/

/-- Later years begin later, by a whole year at least. -/
theorem daysBeforeYear_succ_le {year year' : Int} (h : year < year') :
    daysBeforeYear (year + 1) ≤ daysBeforeYear year' := by
  simp only [daysBeforeYear]
  omega

/-- A number belongs to one year. -/
theorem yearOf_eq (hle : daysBeforeYear year ≤ n) (hlt : n < daysBeforeYear (year + 1)) :
    yearOf n = year := by
  obtain ⟨hle', hlt'⟩ := daysBeforeYear_yearOf n
  rcases Int.lt_trichotomy (yearOf n) year with h | h | h
  · exact absurd (daysBeforeYear_succ_le h) (by omega)
  · exact h
  · exact absurd (daysBeforeYear_succ_le h) (by omega)

/-- **Counting off months** leads from the days before a month to that month. -/
theorem monthAndDay_total_take {lengths : List Nat} {first i : Nat}
    (h : k < lengths[i]?.getD 0) :
    monthAndDay first (total (lengths.take i) + k) lengths = (first + i, k + 1) := by
  induction lengths generalizing first i with
  | nil => exact absurd h (Nat.not_lt_zero k)
  | cons length rest ih =>
    cases i with
    | zero =>
      have hlt : k < length := h
      simp [total, monthAndDay, hlt]
    | succ i =>
      have hcons : total ((length :: rest).take (i + 1)) = length + total (rest.take i) := rfl
      rw [hcons, monthAndDay, if_neg (by omega), Nat.add_assoc, Nat.add_sub_cancel_left, ih h,
        Nat.add_right_comm, Nat.add_assoc]

/-- The days before a month are in the year. -/
theorem total_take_add_le (lengths : List Nat) (i : Nat) :
    total (lengths.take i) + lengths[i]?.getD 0 ≤ total lengths := by
  induction lengths generalizing i with
  | nil => simp [total]
  | cons length rest ih =>
    have hcons : total (length :: rest) = length + total rest := rfl
    cases i with
    | zero => simp [total]
    | succ i =>
      have hrest := ih i
      have htake : total ((length :: rest).take (i + 1)) = length + total (rest.take i) := rfl
      rw [hcons, htake, List.getElem?_cons_succ]
      omega

/-- The length of a month as one of those of the year. -/
theorem monthLength_eq (h : 1 ≤ month) :
    monthLength year month = (monthLengths year)[month - 1]?.getD 0 := by
  rw [monthLength, if_neg (by omega)]

/-- A date of the calendar is in its year. -/
theorem Proper.number_bounds {d : Date} (h : d.Proper) :
    daysBeforeYear d.year ≤ d.number + epochDays ∧
      d.number + epochDays < daysBeforeYear (d.year + 1) := by
  have hday := h.day_le
  have hpos := h.day_pos
  rw [monthLength_eq h.month_le.1] at hday
  have hle := total_take_add_le (monthLengths d.year) (d.month - 1)
  rw [daysBeforeYear_succ, number, daysBeforeMonth]
  simp only [total] at hle ⊢
  omega

/-- **The day of the number of a date** is that date, if the calendar has it. -/
theorem Proper.ofNumber_number {d : Date} (h : d.Proper) : ofNumber d.number = d := by
  obtain ⟨hle, hlt⟩ := h.number_bounds
  have hday := h.day_le
  have hpos := h.day_pos
  rw [monthLength_eq h.month_le.1] at hday
  have hk : (d.number + epochDays - daysBeforeYear d.year).toNat =
      total ((monthLengths d.year).take (d.month - 1)) + (d.day - 1) := by
    rw [number, daysBeforeMonth]
    simp only [total]
    omega
  have hcount := @monthAndDay_total_take (d.day - 1) (monthLengths d.year) 1 (d.month - 1)
    (by omega)
  rw [ofNumber]
  simp only [yearOf_eq hle hlt, hk, hcount]
  have hmonth := h.month_le.1
  rw [Nat.add_sub_cancel' hmonth, Nat.sub_add_cancel hpos]

/-- The dates that are kept, by year, month and day. -/
theorem of_ofParts? {d : Date} (h : ofParts? year month day = some d) :
    d.Proper ∧ d.isInRange = true := by
  simp only [Date.ofParts?, Option.ite_none_right_eq_some, Option.some.injEq] at h
  obtain ⟨⟨hfirst, hlast, hpos, hle⟩, rfl⟩ := h
  exact ⟨⟨hpos, hle⟩, by simp [isInRange, hfirst, hlast]⟩

/-- The dates that are kept are less than a hundred million days from 1970. -/
theorem natAbs_number_lt {d : Date} (h : d.isInRange = true) (hd : d.Proper) :
    d.number.natAbs < 99999999 := by
  obtain ⟨hle, hlt⟩ := hd.number_bounds
  have hkept : firstYear ≤ d.year ∧ d.year ≤ lastYear := by simpa [isInRange] using h
  simp only [firstYear, lastYear] at hkept
  simp only [daysBeforeYear, epochDays] at hle hlt
  omega

end Date

end RecordFormula
