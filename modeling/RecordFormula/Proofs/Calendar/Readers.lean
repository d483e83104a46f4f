import RecordFormula.Calendar.Reading
import RecordFormula.Proofs.Calendar.Moments
import RecordFormula.Proofs.Decimal.Spelling

/-!
# What the readers of moments give and take

Two properties of readers that go through sequences: what they give, and which character they do
not take.

* `Scanner.Gives` — everything that the reader gives has a property. **Every moment read is one
  that a clock shows**, near the dates that are kept (`Moment.Told`, `Moment.told_of_read?`).
* `Scanner.Spares` — the reader takes characters from the front and never a certain one. **The
  forms without an offset spare the letter of universal time**, so that no text is read in which it
  stands and which starts with a sign (`Moment.findSome?_forms_eq_none`).
-/

namespace RecordFormula

namespace Scanner

variable {α β : Type} {r : Scanner α} {f : α → Scanner β} {P : α → Prop} {Q : β → Prop}
  {cs rest : List Char} {c d : Char} {b : β}

/-- A sequence of readers reads with the one and then with the other. -/
theorem bind_eq_some : (r >>= f) cs = some (b, rest) ↔
    ∃ a between, r cs = some (a, between) ∧ f a between = some (b, rest) := by
  simp only [bind, StateT.bind, Option.bind_eq_some_iff, Prod.exists]

/-! ### What a reader gives -/

/-- Does everything that the reader gives have the property? -/
def Gives (r : Scanner α) (P : α → Prop) : Prop := ∀ cs a rest, r cs = some (a, rest) → P a

/-- A reader that takes nothing gives what it is told to. -/
theorem gives_pure {a : α} (h : P a) : Gives (pure a) P := by
  intro cs a' rest h'
  cases h'
  exact h

/-- What the second reader of a sequence gives may depend on what the first one gives. -/
theorem Gives.bind (hr : r.Gives P) (hf : ∀ a, P a → (f a).Gives Q) : Gives (r >>= f) Q := by
  intro cs b rest h
  obtain ⟨a, between, ha, hb⟩ := bind_eq_some.mp h
  exact hf a (hr cs a between ha) between b rest hb

/-- What a sequence gives, if it does not depend on the first reader. -/
theorem gives_bind (hf : ∀ a, (f a).Gives Q) : Gives (r >>= f) Q :=
  Gives.bind (fun _ _ _ _ => trivial) fun a (_ : True) => hf a

/-- A reader that takes nothing gives what there is. -/
theorem gives_lift {o : Option α} (h : ∀ a, o = some a → P a) : Gives (liftM o) P := by
  intro cs a rest h'
  cases o with
  | none => cases h'
  | some a =>
    cases h'
    exact h a rfl

/-- A reader that fails gives nothing. -/
theorem gives_failure : Gives failure P := by
  intro cs a rest h
  cases h

/-- Digits spell a number that has no more digits. -/
theorem ofDigits_lt {ds : List Char} (h : ∀ d ∈ ds, Decimal.isDigit d = true) :
    Decimal.ofDigits ds < 10 ^ ds.length := by
  induction ds using List.reverseRecOn with
  | nil => exact Nat.one_pos
  | append_singleton ds d ih =>
    have hds := ih fun d' hd' => h d' (List.mem_append_left _ hd')
    have hd : Decimal.digitValue d ≤ 9 := by
      have hdigit := h d (by simp)
      simp only [Decimal.isDigit, Bool.and_eq_true, decide_eq_true_eq] at hdigit
      have hle : d.toNat ≤ 57 := hdigit.2
      simp only [Decimal.digitValue]
      omega
    have hstep : Decimal.ofDigits (ds ++ [d]) =
        10 * Decimal.ofDigits ds + Decimal.digitValue d := by
      rw [Decimal.ofDigits, List.foldl_append]
      rfl
    rw [hstep, List.length_append, List.length_singleton, Nat.pow_succ]
    omega

/-- The digits behind the point of a fraction are less than a second. -/
theorem nanosOfDigits_lt {ds : List Char} (h : ∀ d ∈ ds, Decimal.isDigit d = true) :
    nanosOfDigits ds < Moment.nanosPerSecond := by
  have hlt := ofDigits_lt fun d hd => h d (List.mem_of_mem_take (i := 9) hd)
  have hlength : (ds.take 9).length + (9 - ds.length) ≤ 9 := by
    rw [List.length_take]
    omega
  calc nanosOfDigits ds
    _ < 10 ^ (ds.take 9).length * 10 ^ (9 - ds.length) :=
      Nat.mul_lt_mul_of_pos_right hlt (Nat.pow_pos (by decide))
    _ = 10 ^ ((ds.take 9).length + (9 - ds.length)) := (Nat.pow_add ..).symm
    _ ≤ 10 ^ 9 := Nat.pow_le_pow_right (by decide) hlength

/-- The digits that are taken are digits. -/
theorem gives_digits : digits.Gives fun ds => ∀ d ∈ ds, Decimal.isDigit d = true := by
  intro cs ds rest h
  cases h
  exact fun d hd => List.mem_takeWhile_imp hd

/-- A fraction of a second is less than a second. -/
theorem gives_fraction : fraction.Gives (· < Moment.nanosPerSecond) := by
  refine gives_bind fun cs => ?_
  split
  · refine gives_bind fun _ => gives_digits.bind fun ds hds => ?_
    split
    · exact gives_failure
    · exact gives_pure (nanosOfDigits_lt hds)
  · exact gives_pure (by decide)

/-- A whole number of minutes, less than a day. -/
def IsOffset (seconds : Int) : Prop := 60 ∣ seconds ∧ seconds.natAbs < Moment.secondsPerDay

/-- The opposite of an offset is one. -/
theorem IsOffset.neg {seconds : Int} (h : IsOffset seconds) : IsOffset (-seconds) :=
  ⟨Int.dvd_neg.mpr h.1, by rw [Int.natAbs_neg]; exact h.2⟩

/-- The hours and minutes of an offset are less than a day. -/
theorem gives_magnitude : offset.magnitude.Gives IsOffset := by
  refine gives_bind fun hours => gives_bind fun _ => gives_bind fun minutes => ?_
  split
  · refine gives_pure ⟨by omega, ?_⟩
    simp only [Moment.secondsPerDay]
    omega
  · exact gives_failure

/-- **An offset** is a whole number of minutes, less than a day. -/
theorem gives_offset : offset.Gives IsOffset := by
  have hnegative : Gives (do return -(← offset.magnitude)) IsOffset :=
    gives_magnitude.bind fun _ h => gives_pure h.neg
  refine gives_bind fun c => ?_
  split
  · exact gives_magnitude
  · exact hnegative
  · exact hnegative
  · exact gives_pure ⟨Int.dvd_zero 60, by decide⟩

/-! ### What a reader takes -/

/-- Does the reader take characters from the front, and never the given one? -/
def Spares (r : Scanner α) (c : Char) : Prop :=
  ∀ cs a rest, r cs = some (a, rest) → ∃ taken, cs = taken ++ rest ∧ c ∉ taken

/-- A reader that never takes a character does not read all of a text in which it stands. -/
theorem Spares.all?_eq_none (h : r.Spares c) (hc : c ∈ cs) : r.all? cs = none := by
  unfold all?
  split
  · rename_i a heq
    obtain ⟨taken, rfl, hspared⟩ := h cs a [] heq
    rw [List.append_nil] at hc
    exact absurd hc hspared
  · rfl

/-- A reader that takes nothing takes no character. -/
theorem spares_pure (a : α) : Spares (pure a) c := by
  intro cs a' rest h
  cases h
  exact ⟨[], rfl, List.not_mem_nil⟩

/-- The same holds if it may have nothing to give. -/
theorem spares_lift (o : Option α) : Spares (liftM o) c := by
  intro cs a rest h
  cases o with
  | none => cases h
  | some a =>
    cases h
    exact ⟨[], rfl, List.not_mem_nil⟩

/-- A reader that fails takes nothing. -/
theorem spares_failure : Spares (failure : Scanner α) c := by
  intro cs a rest h
  cases h

/-- A sequence takes what its readers take. -/
theorem Spares.bind (hr : r.Spares c) (hf : ∀ a, (f a).Spares c) : Spares (r >>= f) c := by
  intro cs b rest h
  obtain ⟨a, between, ha, hb⟩ := bind_eq_some.mp h
  obtain ⟨taken, rfl, hnot⟩ := hr cs a between ha
  obtain ⟨taken', rfl, hnot'⟩ := hf a between b rest hb
  exact ⟨taken ++ taken', (List.append_assoc ..).symm, by simp [hnot, hnot']⟩

/-- A reader that leaves out a character takes it besides. -/
theorem Spares.set_bind {a : α} {tail : List Char} (hr : r.Spares c) (hd : d ≠ c)
    (h : (set tail >>= fun _ : PUnit => r) (d :: tail) = some (a, rest)) :
    ∃ taken, d :: tail = taken ++ rest ∧ c ∉ taken := by
  obtain ⟨_, _, hset, hread⟩ := bind_eq_some.mp h
  cases hset
  obtain ⟨taken, rfl, hnot⟩ := hr tail a rest hread
  exact ⟨d :: taken, rfl, by simp [hnot, hd.symm]⟩

/-- A mark takes its own character. -/
theorem spares_mark (hd : d ≠ c) : (mark d).Spares c := by
  intro cs a rest h
  unfold mark at h
  split at h
  · split at h
    · rename_i heq
      cases h
      cases heq
      exact ⟨[d], rfl, by simp [hd.symm]⟩
    · cases h
  · cases h

/-- What stands in front of the first character without a property has it. -/
theorem spares_takeWhile {p : Char → Bool} (hc : p c = false) (cs : List Char) :
    ∃ taken, cs = taken ++ cs.dropWhile p ∧ c ∉ taken := by
  refine ⟨cs.takeWhile p, List.takeWhile_append_dropWhile.symm, fun hmem => ?_⟩
  rw [List.mem_takeWhile_imp hmem] at hc
  cases hc

/-- Blanks are blank. -/
theorem spares_blanks (hc : isBlank c = false) : blanks.Spares c := by
  intro cs a rest h
  cases h
  exact spares_takeWhile hc cs

/-- Digits are digits. -/
theorem spares_digits (hc : Decimal.isDigit c = false) : digits.Spares c := by
  intro cs a rest h
  cases h
  exact spares_takeWhile hc cs

/-- The same holds of those of a number. -/
theorem spares_number (hc : Decimal.isDigit c = false) (most : Nat) : (number most).Spares c := by
  intro cs n rest h
  unfold number at h
  split at h
  · cases h
  · cases h
    generalize hds : (cs.take most).takeWhile Decimal.isDigit = ds
    have hfront : ds <+: cs := by
      rw [← hds]
      exact (List.takeWhile_prefix _).trans (List.take_prefix ..)
    obtain ⟨rest, rfl⟩ := hfront
    refine ⟨ds, by rw [List.drop_left], fun hmem => ?_⟩
    rw [← hds] at hmem
    rw [List.mem_takeWhile_imp hmem] at hc
    cases hc

section parts

variable (hblank : isBlank c = false) (hdigit : Decimal.isDigit c = false)

include hblank hdigit

/-- A field takes blanks and digits. -/
theorem spares_field : field.Spares c :=
  (spares_blanks hblank).bind fun _ => spares_number hdigit 2

/-- A year takes blanks, a sign and digits. -/
theorem spares_year (hminus : '-' ≠ c) (hplus : '+' ≠ c) : year.Spares c := by
  refine (spares_blanks hblank).bind fun _ cs a rest h => ?_
  obtain ⟨_, _, hget, h⟩ := bind_eq_some.mp h
  cases hget
  split at h
  · exact ((spares_number hdigit _).bind fun n => spares_pure (-(n : Int))).set_bind hminus h
  · exact ((spares_number hdigit _).bind fun n => spares_pure (n : Int)).set_bind hplus h
  · exact ((spares_number hdigit 4).bind fun n => spares_pure (n : Int)) _ _ _ h

omit hblank in
/-- A fraction takes a point and digits. -/
theorem spares_fraction (hpoint : '.' ≠ c) : fraction.Spares c := by
  intro cs a rest h
  obtain ⟨_, _, hget, h⟩ := bind_eq_some.mp h
  cases hget
  split at h
  · refine Spares.set_bind ((spares_digits hdigit).bind fun ds => ?_) hpoint h
    split
    · exact spares_failure
    · exact spares_pure _
  · exact spares_pure 0 _ _ _ h

end parts

end Scanner

/-! ### What a form gives -/

namespace Moment

open Scanner

variable {cs : List Char} {c : Char}

/-- Does a clock show the moment, on a day that is near those of the dates that are kept? -/
structure Told (m : Moment) : Prop extends m.Proper where
  /-- The day is near 1970. -/
  near : m.IsNear

/-- A moment told by its parts. -/
theorem told_ofParts? {year : Int} {month day hour minute second nano : Nat} {m : Moment}
    (h : ofParts? year month day hour minute second nano = some m)
    (hnano : nano < nanosPerSecond) : m.Told :=
  ⟨proper_ofParts? h hnano, (isKept_ofParts? h).near⟩

/-- A timestamp with an offset tells such a moment, as the offset moves the leap seconds by whole
minutes and the days by one at most. -/
theorem gives_zoned : zoned.Gives Told := by
  refine gives_bind fun year => gives_bind fun _ => gives_bind fun month => gives_bind fun _ =>
    gives_bind fun day => gives_bind fun _ => gives_bind fun hour => gives_bind fun _ =>
    gives_bind fun minute => gives_bind fun _ => gives_bind fun second => ?_
  refine gives_fraction.bind fun nano hnano => gives_offset.bind fun offset hoffset => ?_
  refine (gives_lift (P := fun m => Proper m ∧ IsKept m) fun m hm =>
    ⟨proper_ofParts? hm hnano, isKept_ofParts? hm⟩).bind fun m hm => ?_
  exact gives_pure ⟨hm.1.shiftSeconds fun _ => hoffset.neg.1,
    hm.2.shiftSeconds hm.1.second_lt hoffset.neg.2⟩

/-- A timestamp without an offset tells such a moment. -/
theorem gives_unzoned (separator : Scanner Unit) : (unzoned separator).Gives Told := by
  refine gives_bind fun (year, month, day) => gives_bind fun _ => gives_bind fun hour =>
    gives_bind fun _ => gives_bind fun minute => gives_bind fun _ => gives_bind fun second => ?_
  exact gives_fraction.bind fun nano hnano => gives_lift fun m hm => told_ofParts? hm hnano

/-- So does one without seconds. -/
theorem gives_toTheMinute : toTheMinute.Gives Told := by
  refine gives_bind fun (year, month, day) => gives_bind fun _ => gives_bind fun hour =>
    gives_bind fun _ => gives_bind fun minute => ?_
  exact gives_lift fun m hm => told_ofParts? hm (by decide)

/-- So does a date. -/
theorem gives_midnight : midnight.Gives Told :=
  gives_bind fun (year, month, day) => gives_lift fun m hm => told_ofParts? hm (by decide)

/-- Every form gives such moments. -/
theorem gives_of_mem_forms {form : Scanner Moment} (h : form ∈ forms) : form.Gives Told := by
  simp only [forms, List.mem_cons, List.not_mem_nil, or_false] at h
  obtain rfl | rfl | rfl | rfl | rfl := h
  · exact gives_zoned
  · exact gives_unzoned _
  · exact gives_unzoned _
  · exact gives_toTheMinute
  · exact gives_midnight

/-- **Every moment that is read** is one that a clock shows, near the dates that are kept. -/
theorem told_of_read? {s : String} {m : Moment} (h : read? s = some m) : m.Told := by
  obtain ⟨form, hform, hm⟩ := List.exists_of_findSome?_eq_some h
  unfold Scanner.all? at hm
  split at hm
  · cases hm
    exact gives_of_mem_forms hform _ _ _ (by assumption)
  · cases hm

/-- So is the moment of a number of milliseconds. -/
theorem told_ofMilliseconds? {ms : Int} {m : Moment} (h : ofMilliseconds? ms = some m) : m.Told :=
  ⟨proper_ofMilliseconds? h, (isKept_of_inRange? h).near⟩

/-! ### What a form takes -/

/-- The letter of universal time is not part of a date. -/
theorem spares_dateFields : dateFields.Spares 'Z' :=
  (spares_year rfl rfl (by decide) (by decide)).bind fun _ =>
    (spares_mark (by decide)).bind fun _ => (spares_field rfl rfl).bind fun _ =>
    (spares_mark (by decide)).bind fun _ => (spares_field rfl rfl).bind fun _ => spares_pure _

/-- The letter is not part of a timestamp without an offset. -/
theorem spares_unzoned {separator : Scanner Unit} (h : separator.Spares 'Z') :
    (unzoned separator).Spares 'Z' :=
  spares_dateFields.bind fun _ => h.bind fun _ => (spares_field rfl rfl).bind fun _ =>
    (spares_mark (by decide)).bind fun _ => (spares_field rfl rfl).bind fun _ =>
    (spares_mark (by decide)).bind fun _ => (spares_field rfl rfl).bind fun _ =>
    (spares_fraction rfl (by decide)).bind fun _ => spares_lift _

/-- Nor is it part of one without seconds. -/
theorem spares_toTheMinute : toTheMinute.Spares 'Z' :=
  spares_dateFields.bind fun _ => (spares_mark (by decide)).bind fun _ =>
    (spares_field rfl rfl).bind fun _ => (spares_mark (by decide)).bind fun _ =>
    (spares_field rfl rfl).bind fun _ => spares_lift _

/-- Nor is it part of a date alone. -/
theorem spares_midnight : midnight.Spares 'Z' := spares_dateFields.bind fun _ => spares_lift _

/-- **Only the form with an offset** takes the letter of universal time, and it does not take a sign
before the year. -/
theorem findSome?_forms_eq_none (hc : Decimal.isDigit c = false) (hz : 'Z' ∈ cs) :
    forms.findSome? (fun form => form.all? (c :: cs)) = none := by
  have hmem : 'Z' ∈ c :: cs := List.mem_cons_of_mem c hz
  have hzoned : zoned.all? (c :: cs) = none := by
    have hyear : exactly 4 (c :: cs) = none := by
      simp [exactly, hc]
    unfold Scanner.all?
    split
    · rename_i m heq
      obtain ⟨year, between, hread, -⟩ := bind_eq_some.mp heq
      rw [hyear] at hread
      cases hread
    · rfl
  simp only [forms, List.findSome?_cons, List.findSome?_nil, hzoned,
    (spares_unzoned (spares_mark (d := 'T') (by decide))).all?_eq_none hmem,
    (spares_unzoned (spares_blanks rfl)).all?_eq_none hmem,
    spares_toTheMinute.all?_eq_none hmem, spares_midnight.all?_eq_none hmem]

end Moment

end RecordFormula
