import RecordFormula.Proofs.Calendar.Months

/-!
# Days that have passed

Shifting a date by days moves it from day to day of the calendar, and the time of the day stays. The
days can be added up before the shift, and the distance to the shifted date gives them back.

* `Moment.plusDays` — the same time of the day some days later. **Shifting by the milliseconds of so
  many days leads there** from a moment that is told in milliseconds
  (`Moment.shiftMilliseconds_days`).
* **The time between two moments** is the same from either side, with the opposite sign
  (`Moment.millisecondsSince_swap`).
* A date given as a number is told in milliseconds (`Dates.isMillisecond_of_number`).
* **What a shift by days gives** (`Dates.shift_days_eq`), and the distance in days
  (`Dates.difference_days_eq`).
* **Shifts by days add up and distances undo them** (`Dates.days_add_up`).
-/

namespace RecordFormula

/-! ### Moments -/

namespace Moment

variable {m s : Moment} {n k : Int}

/-- The same time of the day so many days later. -/
def plusDays (m : Moment) (n : Int) : Moment := { m with day := m.day + n }

/-- Is the moment told in milliseconds, outside leap seconds? -/
structure IsMillisecond (m : Moment) : Prop where
  /-- It is not in a leap second. -/
  nano_lt : m.nano < nanosPerSecond
  /-- Its millisecond begins with it. -/
  dvd_nano : 1000000 ∣ m.nano

/-- Days add up. -/
@[simp] theorem plusDays_plusDays (m : Moment) (k n : Int) :
    (m.plusDays k).plusDays n = m.plusDays (k + n) := by
  simp [plusDays, Int.add_assoc]

/-- A moment told in milliseconds is one so many days later. -/
theorem IsMillisecond.plusDays (h : m.IsMillisecond) (n : Int) : (m.plusDays n).IsMillisecond :=
  ⟨h.nano_lt, h.dvd_nano⟩

/-- A moment that a clock shows is one so many days later. -/
theorem Proper.plusDays (h : m.Proper) (n : Int) : (m.plusDays n).Proper :=
  ⟨h.second_lt, h.nano_lt, h.leap⟩

/-- Its text does not cut anything off. -/
theorem IsMillisecond.truncated_eq (h : m.IsMillisecond) : m.truncated = m := by
  rw [truncated, Nat.div_mul_cancel h.dvd_nano]

/-- The moment of a number of milliseconds is told in milliseconds. -/
theorem isMillisecond_ofMilliseconds? {ms : Int} (h : ofMilliseconds? ms = some m) :
    m.IsMillisecond := by
  simp only [ofMilliseconds?, inRange?, Option.ite_none_right_eq_some, Option.some.injEq] at h
  obtain ⟨-, rfl⟩ := h
  refine ⟨?_, Nat.dvd_mul_left ..⟩
  simp only [nanosPerSecond]
  omega

/-- **Shifting by the milliseconds of days** leads to the same time of the day, days later. -/
theorem shiftMilliseconds_days (h : m.IsMillisecond) (hproper : m.Proper) (n : Int) :
    m.shiftMilliseconds (n * 86400000) = m.plusDays n := by
  have hnano : ¬nanosPerSecond ≤ m.nano := Nat.not_le_of_lt h.nano_lt
  have hsecond : m.second < 86400 := hproper.second_lt
  have hlt : m.nano < 1000000000 := h.nano_lt
  have hms : n * 86400000 = n * 86400 * 1000 := by ring
  have hseconds : (n * 86400000).tdiv 1000 = n * 86400 := by
    rw [hms, Int.mul_tdiv_cancel _ (by decide)]
  have hrest : (n * 86400000).tmod 1000 = 0 := by
    rw [hms, Int.mul_tmod_left]
  rw [shiftMilliseconds, hseconds, hrest]
  simp only [hnano, false_and, if_false]
  simp only [shiftSeconds, plusDays, nanosPerSecond, secondsPerDay]
  rw [Moment.mk.injEq]
  omega

/-- The day of a moment whose year has four digits. -/
theorem HasPlainYear.natAbs_day_lt (h : m.HasPlainYear) : m.day.natAbs < 3000000 := by
  obtain ⟨hle, hlt⟩ := (Date.proper_ofNumber m.day).number_bounds
  obtain ⟨hfirst, hlast⟩ := h
  rw [Date.number_ofNumber] at hle hlt
  simp only [date, Date.daysBeforeYear, Date.epochDays] at hfirst hlast hle hlt
  omega

/-- Such a moment has a date that is kept. -/
theorem HasPlainYear.isKept (h : m.HasPlainYear) : m.IsKept := by
  obtain ⟨hfirst, hlast⟩ := h
  have hkept : Date.firstYear ≤ m.date.year ∧ m.date.year ≤ Date.lastYear := by
    simp only [Date.firstYear, Date.lastYear]
    omega
  simpa [IsKept, Date.isInRange] using hkept

/-! ### Time between moments -/

/-- The seconds between two times of the day, from the other side. -/
theorem secondsBetween_swap (m s : Moment) : secondsBetween s m = -secondsBetween m s := by
  unfold secondsBetween
  simp only
  split_ifs <;> omega

/-- **The milliseconds between two moments**, from the other side. -/
theorem millisecondsSince_swap (m s : Moment) :
    m.millisecondsSince s = -s.millisecondsSince m := by
  have hnanos : m.nanosecondsSince s = -s.nanosecondsSince m := by
    unfold nanosecondsSince
    rw [secondsBetween_swap m s]
    ring
  rw [millisecondsSince, hnanos, Int.neg_tdiv, millisecondsSince]

/-- From a moment to the same time of the day some days later, these days have passed. -/
theorem millisecondsSince_plusDays (m : Moment) (n : Int) :
    (m.plusDays n).millisecondsSince m = n * 86400000 := by
  have hnanos : (m.plusDays n).nanosecondsSince m = n * 86400000 * 1000000 := by
    have hseconds : secondsBetween m (m.plusDays n) = 0 := by
      simp [secondsBetween, plusDays]
    rw [nanosecondsSince, hseconds]
    simp only [plusDays, secondsPerDay, nanosPerSecond]
    ring
  rw [millisecondsSince, hnanos, Int.mul_tdiv_cancel _ (by decide)]

/-- Between two moments near 1970 there are less than `2 ^ 64` milliseconds. -/
theorem natAbs_millisecondsSince_lt (hm : m.Told) (hs : s.Told) :
    (s.millisecondsSince m).natAbs < 2 ^ 64 := by
  have hday : m.day.natAbs < 100000000 := hm.near
  have hday' : s.day.natAbs < 100000000 := hs.near
  have hsecond : m.second < 86400 := hm.second_lt
  have hsecond' : s.second < 86400 := hs.second_lt
  have hnano : m.nano < 2 * 1000000000 := hm.nano_lt
  have hnano' : s.nano < 2 * 1000000000 := hs.nano_lt
  have hseconds : (secondsBetween m s).natAbs ≤ 86400 := by
    unfold secondsBetween
    simp only
    split_ifs <;> omega
  rw [millisecondsSince, Int.natAbs_tdiv]
  refine Nat.div_lt_of_lt_mul ?_
  rw [nanosecondsSince]
  simp only [secondsPerDay, nanosPerSecond]
  omega

end Moment

namespace Dates

open Number (IsWhole)

variable {a b c d u v : Value} {args : List Value} {m s : Moment} {x : Float} {n k : Int}

/-! ### Days -/

/-- Does the value name the unit of days? -/
def IsDays (u : Value) : Prop := TimeUnit.ofName? u.toText = some .days

instance : Decidable (IsDays u) := inferInstanceAs (Decidable (_ = _))

/-- Is there no unit that tells time in the arguments behind two dates? -/
def IsRaw (rest : List Value) : Prop :=
  (TimeUnit.ofName? (Arguments.text rest 0)).bind TimeUnit.milliseconds? = none

/-- The milliseconds of a day are a whole number. -/
theorem isWhole_day : IsWhole 86400000.0 86400000 := by
  have h : (86400000.0 : Float) = Float.ofNat 86400000 := by decide +kernel
  rw [h]
  exact Number.isWhole_ofNat (by decide)

/-- The milliseconds of so many days, if they are not too many. -/
theorem whole_days (h : IsWhole x n) (hn : n.natAbs < 104000000) :
    whole (x * 86400000.0) = n * 86400000 :=
  whole_eq (h.mul isWhole_day (by omega)) (by omega)

/-- The days in so many milliseconds. -/
theorem floor_days (hn : n.natAbs < 104000000) :
    Number.floor (Float.ofInt (n * 86400000) / 86400000.0) = Float.ofInt n := by
  by_cases hzero : n = 0
  · subst hzero
    rw [zero_mul]
    decide +kernel
  · have hdays : IsWhole (Float.ofInt (n * 86400000) / 86400000.0) n :=
      (Number.isWhole_ofInt (by omega)).div isWhole_day (by decide) (by omega)
    rw [hdays.floor_eq, hdays.eq_ofInt hzero (by omega)]

/-- Between a moment near 1970 and one whose year has four digits there are not too many days. -/
theorem natAbs_days_lt (hm : m.IsNear) (h : (m.plusDays n).HasPlainYear) :
    n.natAbs < 104000000 := by
  have hday : (m.day + n).natAbs < 3000000 := h.natAbs_day_lt
  have hnear : m.day.natAbs < 100000000 := hm
  omega

/-! ### Shifts and distances -/

/-- A date given as a number is told in milliseconds, outside leap seconds. -/
theorem isMillisecond_of_number (h : moment? (.number x) = some m) : m.IsMillisecond := by
  rw [moment?, Option.ite_none_right_eq_some] at h
  exact Moment.isMillisecond_ofMilliseconds? h.2

/-- **What a shift by days gives**: the text of the same time of the day so many days later. -/
theorem shift_days_eq (hd : moment? d = some m) (hm : m.IsMillisecond) (ha : IsWhole a.toNumber n)
    (hu : IsDays u) (hyear : (m.plusDays n).HasPlainYear) :
    shift [d, a, u] = .text (m.plusDays n).text := by
  have htold := told_moment? hd
  have hshifted : shifted? [d, a, u] = some (m.plusDays n) := by
    have hvalue : Arguments.value [d, a, u] 0 = d := rfl
    have hnumber : Arguments.number [d, a, u] 1 = a.toNumber := rfl
    have hunit : TimeUnit.ofName? (Arguments.text [d, a, u] 2) = some .days := hu
    rw [shifted?_of_isFinite (hnumber ▸ ha.isFinite), hvalue, hnumber, hunit, hd, Option.bind_some,
      shiftBy, whole_days ha (natAbs_days_lt htold.near hyear), Moment.shiftMilliseconds?,
      Moment.shiftMilliseconds_days hm htold.toProper, hyear.isKept.inRange?_eq]
  rw [shift_eq_written, hshifted, written]

/-- **The text of a date so many days later** is read as this date. -/
theorem moment?_text_plusDays (hd : moment? d = some m) (hm : m.IsMillisecond)
    (hyear : (m.plusDays n).HasPlainYear) :
    moment? (.text (m.plusDays n).text) = some (m.plusDays n) := by
  rw [moment?, Moment.read?_text ((told_moment? hd).toProper.plusDays n), if_pos hyear,
    (hm.plusDays n).truncated_eq]

/-- **The distance in days** of a date and the same time of the day so many days later. -/
theorem difference_days_eq (ha : moment? a = some m) (hb : moment? b = some (m.plusDays n))
    (hu : IsDays u) (hn : n.natAbs < 104000000) :
    difference [a, b, u] = .number (Float.ofInt n) := by
  have hfirst : Arguments.value [a, b, u] 0 = a := rfl
  have hsecond : Arguments.value [a, b, u] 1 = b := rfl
  have hunit : TimeUnit.ofName? (Arguments.text [a, b, u] 2) = some .days := hu
  rw [difference, hfirst, hsecond, ha, hb, hunit]
  simp only [Option.bind_some, TimeUnit.milliseconds?, Moment.millisecondsSince_plusDays,
    floor_days hn]

/-- **The distance in milliseconds** of two dates. -/
theorem difference_raw_eq {rest : List Value} (ha : moment? a = some m) (hb : moment? b = some s)
    (hraw : IsRaw rest) :
    difference (a :: b :: rest) = .number (Float.ofInt (s.millisecondsSince m)) := by
  have hfirst : Arguments.value (a :: b :: rest) 0 = a := rfl
  have hsecond : Arguments.value (a :: b :: rest) 1 = b := rfl
  have hthird : Arguments.text (a :: b :: rest) 2 = Arguments.text rest 0 := rfl
  rw [difference, hfirst, hsecond, hthird, ha, hb, hraw]

/-- An integer of 64 bits and its opposite become opposite numbers. -/
theorem ofInt_beq_neg (h : k.natAbs < 2 ^ 64) :
    (Float.ofInt k == -Float.ofInt (-k)) = true := by
  have hfin (n : Nat) (hn : n < 2 ^ 64) : Number.isNaN (Float.ofNat n) = false :=
    Number.isNaN_of_isFinite (Number.isFinite_ofNat hn)
  cases k with
  | ofNat n =>
    cases n with
    | zero => rfl
    | succ n =>
      show (Float.ofNat (n + 1) == - -Float.ofNat (n + 1)) = true
      rw [Number.neg_neg]
      exact Number.beq_self_iff.mpr (hfin _ h)
  | negSucc n =>
    have hneg : Number.isFinite (-Float.ofNat (n + 1)) :=
      Number.isFinite_neg (Number.isFinite_ofNat h)
    exact Number.beq_self_iff.mpr (Number.isNaN_of_isFinite hneg)

/-! ### All together -/

/-- **Shifts by days add up and distances undo them**, for a date that is told in milliseconds
outside leap seconds, as long as four digits are enough for the years of the shifted dates:

* shifting a date by days gives the text of the same time of the day so many days later, and the
  distance from the date to this text is just these days;
* shifting by some days and then by others is shifting by all of them.

Between any two dates there are as many milliseconds as back, with the opposite sign. -/
theorem days_add_up :
    (∀ d a u u' m n, moment? d = some m → m.IsMillisecond → IsWhole a.toNumber n → IsDays u →
      IsDays u' → (m.plusDays n).HasPlainYear →
      shift [d, a, u] = .text (m.plusDays n).text ∧
        difference [d, shift [d, a, u], u'] = .number (Float.ofInt n)) ∧
    (∀ d a b c u u' u'' m k n, moment? d = some m → m.IsMillisecond → IsWhole a.toNumber k →
      IsWhole b.toNumber n → IsWhole c.toNumber (k + n) → IsDays u → IsDays u' → IsDays u'' →
      (m.plusDays k).HasPlainYear → (m.plusDays (k + n)).HasPlainYear →
      shift [shift [d, a, u], b, u'] = shift [d, c, u'']) ∧
    ∀ a b m s rest, moment? a = some m → moment? b = some s → IsRaw rest →
      ∃ k, difference (a :: b :: rest) = .number (Float.ofInt k) ∧
        difference (b :: a :: rest) = .number (Float.ofInt (-k)) ∧
        (Float.ofInt k == -Float.ofInt (-k)) = true := by
  refine ⟨?_, ?_, ?_⟩
  · intro d a u u' m n hd hm ha hu hu' hyear
    have hshift := shift_days_eq hd hm ha hu hyear
    refine ⟨hshift, ?_⟩
    rw [hshift]
    exact difference_days_eq hd (moment?_text_plusDays hd hm hyear) hu'
      (natAbs_days_lt (told_moment? hd).near hyear)
  · intro d a b c u u' u'' m k n hd hm ha hb hc hu hu' hu'' hyear hyear'
    have hread := moment?_text_plusDays hd hm hyear
    have hagain : (m.plusDays k).plusDays n = m.plusDays (k + n) := Moment.plusDays_plusDays m k n
    rw [shift_days_eq hd hm ha hu hyear, shift_days_eq hd hm hc hu'' hyear',
      shift_days_eq hread (hm.plusDays k) hb hu' (hagain ▸ hyear'), hagain]
  · intro a b m s rest ha hb hraw
    refine ⟨s.millisecondsSince m, difference_raw_eq ha hb hraw, ?_, ?_⟩
    · rw [difference_raw_eq hb ha hraw, Moment.millisecondsSince_swap]
    · exact ofInt_beq_neg
        (Moment.natAbs_millisecondsSince_lt (told_moment? ha) (told_moment? hb))

/-- Two days after the twenty-eighth of February 2024 it is March, and two days before that it is
the twenty-eighth again. -/
theorem days_add_up_leap :
    shift [.text "2024-02-28T12:00:00.250Z", .number 2, .text "days"] =
        .text (Moment.plusDays ⟨19781, 43200, 250000000⟩ 2).text ∧
      difference [.text "2024-02-28T12:00:00.250Z",
        shift [.text "2024-02-28T12:00:00.250Z", .number 2, .text "days"], .text "day"] =
          .number (Float.ofInt 2) ∧
      shift [shift [.text "2024-02-28T12:00:00.250Z", .number 2, .text "days"], .number (-2),
        .text "days"] = shift [.text "2024-02-28T12:00:00.250Z", .number 0, .text "days"] ∧
      ∃ k, difference [.text "2024-02-28T12:00:00.250Z", .text "2024-02-28"] =
          .number (Float.ofInt k) ∧
        difference [.text "2024-02-28", .text "2024-02-28T12:00:00.250Z"] =
          .number (Float.ofInt (-k)) ∧
        (Float.ofInt k == -Float.ofInt (-k)) = true := by
  have hdate : moment? (.text "2024-02-28T12:00:00.250Z") = some ⟨19781, 43200, 250000000⟩ := by
    decide +kernel
  have hmidnight : moment? (.text "2024-02-28") = some ⟨19781, 0, 0⟩ := by decide +kernel
  have hms : Moment.IsMillisecond ⟨19781, 43200, 250000000⟩ := ⟨by decide, by decide⟩
  have htwo : IsWhole (2 : Float) 2 := Number.isWhole_ofNat (n := 2) (by decide)
  have hminus : IsWhole (-2 : Float) (-2) := htwo.neg
  have hzero : IsWhole (0 : Float) (2 + -2) := Number.isWhole_ofNat (n := 0) (by decide)
  have hdays : IsDays (.text "days") := by decide +kernel
  have hday : IsDays (.text "day") := by decide +kernel
  have hraw : IsRaw [] := rfl
  have hlater : (Moment.plusDays ⟨19781, 43200, 250000000⟩ 2).HasPlainYear := by decide +kernel
  have hback : (Moment.plusDays ⟨19781, 43200, 250000000⟩ (2 + -2)).HasPlainYear := by
    decide +kernel
  obtain ⟨hshift, hagain, hswap⟩ := days_add_up
  obtain ⟨htext, hdistance⟩ := hshift _ (.number 2) _ _ _ 2 hdate hms htwo hdays hday hlater
  exact ⟨htext, hdistance, hagain _ (.number 2) (.number (-2)) (.number 0) _ _ _ _ 2 (-2) hdate hms
    htwo hminus hzero hdays hdays hdays hlater hback, hswap _ _ _ _ [] hdate hmidnight hraw⟩

end Dates

end RecordFormula
