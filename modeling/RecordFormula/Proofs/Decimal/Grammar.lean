import Mathlib
import RecordFormula.Decimal.Reading

/-!
# The grammar of numerals

Which texts spell a number, said without the reader, and what they stand for.

* `SignMark`, `Mantissa`, `Exponent` — the parts: an optional sign, digits with at most one point, and
  an optional exponent.
* `Numeral cs s q` — the text is made of these parts and stands for `± q`.
* **The reader knows exactly these texts** (`spelling?_eq_some_iff`), and finds what they stand for
  (`Numeral.spelling?_eq`, `exists_numeral`).
-/

namespace RecordFormula

namespace Decimal

open Float.Model.UnpackedFloat (Sign)

/-! ### Numerals -/

section numerals

/-- An optional sign. -/
inductive SignMark : List Char → Sign → Prop
  /-- None at all is a plus sign. -/
  | none : SignMark [] .positive
  /-- A plus sign. -/
  | plus : SignMark ['+'] .positive
  /-- A minus sign. -/
  | minus : SignMark ['-'] .negative

/-- Digits with at most one point, of which there is at least one: those before the point and those
behind it. -/
inductive Mantissa : List Char → List Char → List Char → Prop
  /-- There is no point. -/
  | whole {ds : List Char} (hne : ds ≠ []) (hd : ∀ c ∈ ds, isDigit c = true) : Mantissa ds ds []
  /-- There is a point behind a digit. -/
  | pointed {ds fs : List Char} (hne : ds ≠ []) (hd : ∀ c ∈ ds, isDigit c = true)
      (hf : ∀ c ∈ fs, isDigit c = true) : Mantissa (ds ++ '.' :: fs) ds fs
  /-- There is a point before all digits. -/
  | fraction {fs : List Char} (hne : fs ≠ []) (hf : ∀ c ∈ fs, isDigit c = true) :
      Mantissa ('.' :: fs) [] fs

/-- An optional exponent. -/
inductive Exponent : List Char → Int → Prop
  /-- None at all is zero. -/
  | none : Exponent [] 0
  /-- A mark, an optional sign and at least one digit. -/
  | some {c : Char} {a ds : List Char} {s : Sign} (hc : c = 'e' ∨ c = 'E') (ha : SignMark a s)
      (hne : ds ≠ []) (hd : ∀ c ∈ ds, isDigit c = true) :
      Exponent (c :: (a ++ ds)) (s.apply (ofDigits ds))

/-- The text spells `± q`. -/
inductive Numeral : List Char → Sign → ℚ → Prop
  /-- A sign, digits before and behind a point, and an exponent. -/
  | intro {a b c ds fs : List Char} {s : Sign} {k : Int} (ha : SignMark a s)
      (hb : Mantissa b ds fs) (hc : Exponent c k) :
      Numeral (a ++ b ++ c) s ((ofDigits ds + ofDigits fs / 10 ^ fs.length) * 10 ^ k)

end numerals

/-! ### The parts are found -/

section parts

variable {a b c cs ds fs rest : List Char} {s : Sign} {k : Int}

/-- A spelling that starts with a digit has no sign. -/
theorem splitSign_of_isDigit {c : Char} (hc : isDigit c = true) (cs : List Char) :
    splitSign (c :: cs) = (false, c :: cs) := by
  unfold splitSign
  split
  · next heq =>
    obtain rfl := (List.cons.inj heq).1
    exact absurd hc (by decide)
  · next heq =>
    obtain rfl := (List.cons.inj heq).1
    exact absurd hc (by decide)
  · rfl

/-- A sign is told from what follows it, if this does not look like a sign. -/
theorem SignMark.splitSign_append (ha : SignMark a s) (hrest : splitSign rest = (false, rest)) :
    splitSign (a ++ rest) = (s == .negative, rest) := by
  cases ha with
  | none => exact hrest
  | plus => rfl
  | minus => rfl

/-- Every text starts with an optional sign. -/
theorem exists_signMark (cs : List Char) :
    ∃ a s, SignMark a s ∧ cs = a ++ (splitSign cs).2 ∧ (splitSign cs).1 = (s == .negative) := by
  unfold splitSign
  split
  · exact ⟨_, _, .plus, rfl, rfl⟩
  · exact ⟨_, _, .minus, rfl, rfl⟩
  · exact ⟨_, _, .none, rfl, rfl⟩

/-- An exponent starts with its mark. -/
theorem mark_of_exponent? {c : Char} {tail : List Char} {k : Int}
    (h : exponent? (c :: tail) = some k) : c = 'e' ∨ c = 'E' := by
  by_contra hmark
  rw [exponent?, if_neg hmark] at h
  cases h

/-- A number with a sign. -/
theorem apply_eq (s : Sign) (n : Int) : (if (s == .negative) = true then -n else n) = s.apply n := by
  cases s <;> rfl

/-- **The exponents are those of the grammar.** -/
theorem exponent?_eq_some_iff : exponent? cs = some k ↔ Exponent cs k := by
  constructor
  · intro h
    cases cs with
    | nil =>
      obtain rfl : 0 = k := Option.some.inj h
      exact .none
    | cons c cs =>
      have hc := mark_of_exponent? h
      obtain ⟨a, s, ha, hcs, hs⟩ := exists_signMark cs
      rw [exponent?, if_pos hc] at h
      simp only [hs, apply_eq] at h
      generalize (splitSign cs).2 = ds at h hcs
      subst hcs
      split_ifs at h with hd
      simp only [Bool.and_eq_true, Bool.not_eq_true', List.isEmpty_eq_false_iff,
        List.all_eq_true] at hd
      obtain rfl := Option.some.inj h
      exact .some hc ha hd.1 hd.2
  · rintro (_ | ⟨hc, ha, hne, hd⟩)
    · rfl
    · next c a ds s =>
      have hsign : splitSign ds = (false, ds) := by
        obtain ⟨d, rest, rfl⟩ := List.exists_cons_of_ne_nil hne
        exact splitSign_of_isDigit (hd d (by simp)) rest
      rw [exponent?, if_pos hc, ha.splitSign_append hsign]
      simp only [apply_eq]
      rw [if_pos (by simpa [hne] using hd)]

/-- Digits are told from what follows them, if this does not start with a digit. -/
theorem takeWhile_digits (hd : ∀ c ∈ ds, isDigit c = true) (hrest : rest.takeWhile isDigit = []) :
    (ds ++ rest).takeWhile isDigit = ds ∧ (ds ++ rest).dropWhile isDigit = rest := by
  have hdrop : rest.dropWhile isDigit = rest := by
    have h := List.takeWhile_append_dropWhile (p := isDigit) (l := rest)
    rwa [hrest, List.nil_append] at h
  rw [List.takeWhile_append_of_pos hd, List.dropWhile_append_of_pos hd, hrest, List.append_nil, hdrop]
  exact ⟨rfl, rfl⟩

/-- An exponent starts neither with a digit nor with a point. -/
theorem Exponent.start (h : Exponent c k) :
    c.takeWhile isDigit = [] ∧ c.dropWhile isDigit = c ∧ splitFraction c = ([], c) := by
  cases h with
  | none => exact ⟨rfl, rfl, rfl⟩
  | some hc => rcases hc with rfl | rfl <;> exact ⟨rfl, rfl, rfl⟩

/-- **The digits before and behind a point are found.** -/
theorem Mantissa.split (hb : Mantissa b ds fs) (hc : Exponent c k) :
    (b ++ c).takeWhile isDigit = ds ∧ splitFraction ((b ++ c).dropWhile isDigit) = (fs, c) := by
  obtain ⟨htake, hdrop, hpoint⟩ := hc.start
  cases hb with
  | whole hne hd =>
    obtain ⟨h₁, h₂⟩ := takeWhile_digits hd htake
    exact ⟨h₁, by rw [h₂, hpoint]⟩
  | pointed hne hd hf =>
    have hstart : ('.' :: (fs ++ c)).takeWhile isDigit = [] := rfl
    obtain ⟨h₁, h₂⟩ := takeWhile_digits hd hstart
    obtain ⟨h₃, h₄⟩ := takeWhile_digits hf htake
    rw [List.append_assoc, List.cons_append]
    exact ⟨h₁, by rw [h₂, splitFraction, h₃, h₄]⟩
  | fraction hne hf =>
    obtain ⟨h₁, h₂⟩ := takeWhile_digits hf htake
    exact ⟨rfl, by rw [List.cons_append]; exact Prod.ext h₁ h₂⟩

/-- A mantissa has a digit and does not start with a sign. -/
theorem Mantissa.start (hb : Mantissa b ds fs) (rest : List Char) :
    (ds ≠ [] ∨ fs ≠ []) ∧ splitSign (b ++ rest) = (false, b ++ rest) := by
  have hdigits : ∀ {ds : List Char}, ds ≠ [] → (∀ c ∈ ds, isDigit c = true) → ∀ rest,
      splitSign (ds ++ rest) = (false, ds ++ rest) := by
    intro ds hne hd rest
    obtain ⟨c, cs, rfl⟩ := List.exists_cons_of_ne_nil hne
    exact splitSign_of_isDigit (hd c (by simp)) _
  cases hb with
  | whole hne hd => exact ⟨.inl hne, hdigits hne hd _⟩
  | pointed hne hd hf =>
    rw [List.append_assoc]
    exact ⟨.inl hne, hdigits hne hd _⟩
  | fraction hne hf => exact ⟨.inr hne, rfl⟩

/-- **Digits with at most one point are a mantissa**, if there is a digit. -/
theorem exists_mantissa (cs : List Char)
    (h : cs.takeWhile isDigit ≠ [] ∨ (splitFraction (cs.dropWhile isDigit)).1 ≠ []) :
    ∃ b, Mantissa b (cs.takeWhile isDigit) (splitFraction (cs.dropWhile isDigit)).1 ∧
      cs = b ++ (splitFraction (cs.dropWhile isDigit)).2 := by
  have hd : ∀ c ∈ cs.takeWhile isDigit, isDigit c = true := fun c hc => List.mem_takeWhile_imp hc
  have hcs := List.takeWhile_append_dropWhile (p := isDigit) (l := cs)
  generalize cs.takeWhile isDigit = ds at h hd hcs
  generalize cs.dropWhile isDigit = rest at h hcs
  subst hcs
  unfold splitFraction at h ⊢
  split at h
  · next rest =>
    have hf : ∀ c ∈ rest.takeWhile isDigit, isDigit c = true := fun c hc =>
      List.mem_takeWhile_imp hc
    have hrest := List.takeWhile_append_dropWhile (p := isDigit) (l := rest)
    by_cases hne : ds = []
    · subst hne
      exact ⟨_, .fraction (h.resolve_left (by simp)) hf, by simp [hrest]⟩
    · exact ⟨_, .pointed hne hd hf, by simp [hrest]⟩
  · have hne : ds ≠ [] := h.resolve_right (by simp)
    exact ⟨ds, .whole hne hd, rfl⟩

end parts

/-! ### Numerals are read -/

section reading

variable {a b c cs ds fs : List Char} {s : Sign} {k : Int} {q : ℚ} {p : Spelling}

/-- **The reader knows the texts of the grammar**, and finds their parts. -/
theorem spelling?_eq_some_iff :
    spelling? cs = some p ↔ ∃ a s b ds fs c k, SignMark a s ∧ Mantissa b ds fs ∧ Exponent c k ∧
      cs = a ++ b ++ c ∧ p = ⟨s == .negative, ofDigits (ds ++ fs), k - (fs.length : Int)⟩ := by
  constructor
  · intro h
    obtain ⟨a, s, ha, hcs, hs⟩ := exists_signMark cs
    unfold spelling? at h
    simp only [hs] at h
    generalize (splitSign cs).2 = rest at h hcs
    split_ifs at h with hempty
    have hdigit : rest.takeWhile isDigit ≠ [] ∨
        (splitFraction (rest.dropWhile isDigit)).1 ≠ [] := by
      rw [Bool.and_eq_true, List.isEmpty_iff, List.isEmpty_iff, not_and_or] at hempty
      exact hempty
    obtain ⟨k, hk, rfl⟩ := Option.map_eq_some_iff.mp h
    obtain ⟨b, hb, hrest⟩ := exists_mantissa rest hdigit
    refine ⟨a, s, b, _, _, _, k, ha, hb, exponent?_eq_some_iff.mp hk, ?_, rfl⟩
    rw [List.append_assoc, ← hrest, hcs]
  · rintro ⟨a, s, b, ds, fs, c, k, ha, hb, hc, rfl, rfl⟩
    obtain ⟨hdigit, hsign⟩ := hb.start c
    obtain ⟨htake, hsplit⟩ := hb.split hc
    have hk := exponent?_eq_some_iff.mpr hc
    rw [List.append_assoc]
    simp only [spelling?, ha.splitSign_append hsign, htake, hsplit, hk]
    rw [if_neg]
    · rfl
    · rw [Bool.and_eq_true, List.isEmpty_iff, List.isEmpty_iff, not_and_or]
      exact hdigit

/-- Digits behind others count less. -/
theorem ofDigits_append (ds fs : List Char) :
    ofDigits (ds ++ fs) = 10 ^ fs.length * ofDigits ds + ofDigits fs := by
  have h := Nat.ofDigitChars_append (b := 10) (l := ds) (m := fs) 0
  rw [Nat.ofDigitChars_eq_ofDigitChars_zero (l := fs)] at h
  exact h

/-- The digits behind a point count as a fraction. -/
theorem ofDigits_pointed (ds fs : List Char) (k : Int) :
    (ofDigits (ds ++ fs) : ℚ) * 10 ^ (k - (fs.length : Int)) =
      (ofDigits ds + ofDigits fs / 10 ^ fs.length) * 10 ^ k := by
  rw [ofDigits_append, zpow_sub₀ (by norm_num), zpow_natCast]
  push_cast
  field_simp

/-- **A numeral is read with its sign and its value.** -/
theorem Numeral.spelling?_eq (h : Numeral cs s q) :
    ∃ digits exponent, spelling? cs = some ⟨s == .negative, digits, exponent⟩ ∧
      (digits : ℚ) * 10 ^ exponent = q := by
  obtain ⟨ha, hb, hc⟩ := h
  exact ⟨_, _, spelling?_eq_some_iff.mpr ⟨_, _, _, _, _, _, _, ha, hb, hc, rfl, rfl⟩,
    ofDigits_pointed _ _ _⟩

/-- **What is read is a numeral.** -/
theorem exists_numeral (h : spelling? cs = some p) : ∃ s q, Numeral cs s q := by
  obtain ⟨a, s, b, ds, fs, c, k, ha, hb, hc, rfl, -⟩ := spelling?_eq_some_iff.mp h
  exact ⟨s, _, .intro ha hb hc⟩

end reading

end Decimal

end RecordFormula
