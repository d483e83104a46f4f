import RecordFormula.Calendar.Moment
import RecordFormula.Proofs.Calendar.Days

/-!
# Moments that a clock shows

A moment can be told as a date and a time of the day if its leap second, where it has one, is the
last of a minute. All moments that are made of such parts or shifted are of this kind.

* `Moment.Proper` — the moments that a clock shows. **They are told by their parts**
  (`Moment.Proper.ofParts?_parts`), **and what is told by parts is one of them**
  (`Moment.proper_ofParts?`).
* **Shifting keeps to them** (`Moment.Proper.shiftSeconds`, `Moment.Proper.shiftMilliseconds`,
  `Moment.Proper.shiftMonths?`).
* `Moment.truncated` — a moment without the part of its millisecond.
* `Moment.IsKept` — the moments with a date that is kept, which are near 1970
  (`Moment.IsKept.near`).
-/

namespace RecordFormula

namespace Moment

variable {m m' : Moment} {ms months seconds : Int}

/-- Does a clock show the moment? A leap second comes at the end of a minute. -/
structure Proper (m : Moment) : Prop where
  /-- The second is one of the day. -/
  second_lt : m.second < secondsPerDay
  /-- The nanosecond is one of the second or of a leap second. -/
  nano_lt : m.nano < 2 * nanosPerSecond
  /-- A leap second comes after the last second of a minute. -/
  leap : nanosPerSecond ≤ m.nano → m.second % 60 = 59

/-- The moment at which its millisecond began. -/
def truncated (m : Moment) : Moment := { m with nano := m.nano / 1000000 * 1000000 }

/-! ### The parts of a moment -/

section parts

variable {year : Int} {month day hour minute second nano s n : Nat}

/-- A time of the day is that of a moment that a clock shows. -/
theorem proper_timeOfDay? {number : Int} (h : timeOfDay? hour minute second nano = some (s, n))
    (hnano : nano < nanosPerSecond) : Proper ⟨number, s, n⟩ := by
  simp only [timeOfDay?, nanosPerSecond] at h hnano
  split at h
  · split at h <;> cases h <;> constructor <;> simp only [secondsPerDay, nanosPerSecond] <;> omega
  · cases h

/-- **A moment told by its parts** is one that a clock shows. -/
theorem proper_ofParts? (h : ofParts? year month day hour minute second nano = some m)
    (hnano : nano < nanosPerSecond) : m.Proper := by
  simp only [ofParts?, Option.bind_eq_bind, Option.bind_eq_some_iff] at h
  obtain ⟨date, -, ⟨s, n⟩, htime, hm⟩ := h
  cases hm
  exact proper_timeOfDay? htime hnano

/-- **A moment is told by its parts**, down to the millisecond. -/
theorem Proper.ofParts?_parts (h : m.Proper) (hfirst : Date.firstYear ≤ m.date.year)
    (hlast : m.date.year ≤ Date.lastYear) :
    ofParts? m.date.year m.date.month m.date.day (m.second / 3600) (m.second / 60 % 60)
      (m.second % 60 + m.nano / nanosPerSecond) (m.nano % nanosPerSecond / 1000000 * 1000000) =
        some m.truncated := by
  have hdate : Date.ofParts? m.date.year m.date.month m.date.day = some m.date :=
    (Date.proper_ofNumber m.day).ofParts? hfirst hlast
  have htime : timeOfDay? (m.second / 3600) (m.second / 60 % 60)
      (m.second % 60 + m.nano / nanosPerSecond) (m.nano % nanosPerSecond / 1000000 * 1000000) =
        some (m.second, m.nano / 1000000 * 1000000) := by
    have hsecond : m.second < 86400 := h.second_lt
    have hnano : m.nano < 2 * 1000000000 := h.nano_lt
    by_cases hin : nanosPerSecond ≤ m.nano
    · have h59 : m.second % 60 = 59 := h.leap hin
      have hin : 1000000000 ≤ m.nano := hin
      have hdiv : m.nano / nanosPerSecond = 1 := by
        rw [nanosPerSecond]
        omega
      have hmod : nanosPerSecond + m.nano % nanosPerSecond / 1000000 * 1000000 =
          m.nano / 1000000 * 1000000 := by
        rw [nanosPerSecond]
        omega
      rw [timeOfDay?, if_pos (by omega), if_pos (by omega), hmod]
      congr 2
      omega
    · have hin : m.nano < nanosPerSecond := Nat.lt_of_not_le hin
      rw [Nat.div_eq_of_lt hin, Nat.mod_eq_of_lt hin, timeOfDay?, if_pos (by omega),
        if_neg (by omega)]
      congr 2
      omega
  rw [ofParts?, hdate, Option.bind_eq_bind, Option.bind_some, htime, Option.bind_eq_bind,
    Option.bind_some, date, Date.number_ofNumber]
  rfl

end parts

/-- The start of a millisecond that a clock shows is one that a clock shows. -/
theorem Proper.truncated (h : m.Proper) : m.truncated.Proper := by
  have hle : m.nano / 1000000 * 1000000 ≤ m.nano := Nat.div_mul_le_self ..
  exact ⟨h.second_lt, Nat.lt_of_le_of_lt hle h.nano_lt, fun hin => h.leap (Nat.le_trans hin hle)⟩

/-! ### Shifting -/

/-- Shifting by nothing changes nothing. -/
theorem Proper.shiftSeconds_zero (h : m.Proper) : m.shiftSeconds 0 = m := by
  have hsecond : m.second < 86400 := h.second_lt
  obtain ⟨day, second, nano⟩ := m
  simp only [Moment.shiftSeconds, secondsPerDay, Moment.mk.injEq, and_true] at hsecond ⊢
  omega

/-- The moment of a number of milliseconds is one that a clock shows. -/
theorem proper_ofMilliseconds? (h : ofMilliseconds? ms = some m) : m.Proper := by
  simp only [ofMilliseconds?, inRange?, Option.ite_none_right_eq_some, Option.some.injEq] at h
  obtain ⟨-, rfl⟩ := h
  constructor <;> simp only [secondsPerDay, nanosPerSecond] <;> omega

/-- A whole number of minutes leaves a leap second where it belongs; a moment outside leap seconds
can be shifted by any number of seconds. -/
theorem Proper.shiftSeconds (h : m.Proper) (hs : nanosPerSecond ≤ m.nano → 60 ∣ seconds) :
    (m.shiftSeconds seconds).Proper := by
  refine ⟨?_, h.nano_lt, fun hin => ?_⟩
  · simp only [Moment.shiftSeconds, secondsPerDay]
    omega
  · have h59 := h.leap hin
    have h60 := hs hin
    simp only [Moment.shiftSeconds, secondsPerDay]
    omega

/-- **Shifting by milliseconds** leads to a moment that a clock shows: it either stays in the leap
second or goes to a moment outside. -/
theorem Proper.shiftMilliseconds (h : m.Proper) (ms : Int) : (m.shiftMilliseconds ms).Proper := by
  have hlow : -1000 < ms.tmod 1000 := Int.lt_tmod_of_pos ms (by decide)
  have hhigh : ms.tmod 1000 < 1000 := Int.tmod_lt_of_pos ms (by decide)
  simp only [Moment.shiftMilliseconds]
  split
  · rename_i hstays
    obtain ⟨hin, hleaves, -⟩ := hstays
    obtain ⟨hsecond, hnano, hleap⟩ := h
    refine ⟨hsecond, ?_, fun _ => hleap hin⟩
    simp only [nanosPerSecond] at hin hleaves hnano ⊢
    omega
  · have hnano (total : Int) : (total % nanosPerSecond).toNat < nanosPerSecond := by
      simp only [nanosPerSecond]
      omega
    refine Proper.shiftSeconds ⟨Nat.zero_lt_succ _, ?_, fun hin => ?_⟩ fun hin => ?_
    · exact Nat.lt_of_lt_of_le (hnano _) (by decide)
    · exact absurd hin (Nat.not_le_of_lt (hnano _))
    · exact absurd hin (Nat.not_le_of_lt (hnano _))

/-- Shifting by milliseconds leads to a moment that a clock shows, if to any. -/
theorem Proper.shiftMilliseconds? (h : m.Proper) (hm : m.shiftMilliseconds? ms = some m') :
    m'.Proper := by
  simp only [Moment.shiftMilliseconds?, inRange?, Option.ite_none_right_eq_some,
    Option.some.injEq] at hm
  obtain ⟨-, rfl⟩ := hm
  exact h.shiftMilliseconds ms

/-- **Shifting by months** does not touch the time of the day. -/
theorem Proper.shiftMonths? (h : m.Proper) (hm : m.shiftMonths? months = some m') : m'.Proper := by
  simp only [Moment.shiftMonths?, Option.ite_none_right_eq_some, Option.some.injEq] at hm
  obtain ⟨-, rfl⟩ := hm
  exact ⟨h.second_lt, h.nano_lt, h.leap⟩

/-! ### Days near 1970 -/

section days

/-- Is the day in a year that dates are kept of? -/
def IsKept (m : Moment) : Prop := m.date.isInRange = true

/-- Is the day within a hundred million days of the start of 1970? All dates that are kept are. -/
def IsNear (m : Moment) : Prop := m.day.natAbs < 100000000

/-- The day of a date that is kept is nearer than that by far. -/
theorem IsKept.natAbs_day_lt (h : m.IsKept) : m.day.natAbs < 99999999 := by
  have hbounds := Date.natAbs_number_lt h (Date.proper_ofNumber m.day)
  rwa [date, Date.number_ofNumber] at hbounds

/-- A date that is kept is near 1970. -/
theorem IsKept.near (h : m.IsKept) : m.IsNear := Nat.lt_trans h.natAbs_day_lt (by decide)

/-- Less than a day later or earlier it is still near. -/
theorem IsKept.shiftSeconds (h : m.IsKept) (hsecond : m.second < secondsPerDay)
    (hs : seconds.natAbs < secondsPerDay) : (m.shiftSeconds seconds).IsNear := by
  have hday := h.natAbs_day_lt
  simp only [IsNear, Moment.shiftSeconds, secondsPerDay] at hsecond hs ⊢
  omega

/-- A moment is in range if its date is kept. -/
theorem IsKept.inRange?_eq (h : m.IsKept) : inRange? m = some m := if_pos h

/-- A moment in range has a date that is kept. -/
theorem isKept_of_inRange? (h : inRange? m = some m') : m'.IsKept := by
  simp only [inRange?, Option.ite_none_right_eq_some, Option.some.injEq] at h
  obtain ⟨hkept, rfl⟩ := h
  exact hkept

/-- A moment told by its parts has a date that is kept. -/
theorem isKept_ofParts? {year : Int} {month day hour minute second nano : Nat}
    (h : ofParts? year month day hour minute second nano = some m) : m.IsKept := by
  simp only [ofParts?, Option.bind_eq_bind, Option.bind_eq_some_iff] at h
  obtain ⟨date, hdate, ⟨s, n⟩, -, hm⟩ := h
  cases hm
  obtain ⟨hproper, hkept⟩ := Date.of_ofParts? hdate
  show (Date.ofNumber date.number).isInRange = true
  rw [hproper.ofNumber_number, hkept]

end days

end Moment

end RecordFormula
