import RecordFormula.Proofs.Text.Images
import RecordFormula.Text.Blank
import RecordFormula.Text.Letter

/-!
# Characters with another case

What case mapping changes are letters, and it makes letters of them. This is checked on the tables of
case mapping and those of categories, span by span.

* `Category.isAlphanumericSpan` — a test of all characters of a span, and **that they are alphabetic or
  numbers if it succeeds** (`Category.isAlphanumeric_of_isAlphanumericSpan`).
* `Casing.Lettered` — tables that map letters to letters, as those of both cases do
  (`Casing.lettered_upper`, `Casing.lettered_lower`).
* **The ways in which a character comes to its image**, and what they say of letters
  (`Casing.Lettered.image_cases`).
-/

namespace RecordFormula

/-! ### Alphabetic spans -/

/-- Does one of some ascending spans without gaps hold all code points from `first` to `last`? -/
def Span.holds (first last : Nat) : List Span → Bool
  | [] => false
  | s :: rest =>
    Nat.ble s.first first &&
      (s.step == 1 && Nat.ble last s.last || Nat.blt s.last first && holds first last rest)

/-- Then they hold each of them. -/
theorem Span.cover_of_holds {first last n : Nat} {spans : List Span} (h : holds first last spans)
    (hfirst : first ≤ n) (hlast : n ≤ last) : cover n spans := by
  induction spans with
  | nil => cases h
  | cons s rest ih =>
    simp only [holds, Bool.and_eq_true, Bool.or_eq_true, Nat.ble_eq, Nat.blt_eq, beq_iff_eq] at h
    obtain ⟨hlow, ⟨hstep, hhigh⟩ | ⟨hbelow, hrest⟩⟩ := h
    · have hin : n ≤ s.last := Nat.le_trans hlast hhigh
      rw [cover, if_neg (by omega), if_pos]
      simp [hin, hstep, Nat.mod_one]
    · have hout : ¬ n ≤ s.last := by omega
      rw [cover, if_neg (by omega), if_neg (by simp [hout])]
      exact ih hrest

namespace Category

/-- Are all characters of the category alphabetic? -/
def isSpelling : Category → Bool
  | .lu | .ll | .lt | .lm | .lo | .nl => true
  | _ => false

/-- Such characters are alphabetic. -/
theorem isAlphabetic_of_isSpelling {c : Char} (h : (Category.of c).isSpelling) :
    Letter.isAlphabetic c := by
  have hcategory : ∀ k : Category, k.isSpelling →
      (k == .ll) = true ∨ (k == .lu) = true ∨ [Category.lt, .lm, .lo, .nl].contains k = true := by
    intro k
    cases k <;> decide
  have hc := hcategory _ h
  simp only [Letter.isAlphabetic, Letter.isLowercase, Letter.isUppercase, Letter.isOneOf,
    Bool.or_eq_true]
  tauto

/-- Do the code points `first, first + step, …` of a stretch, up to `last`, have such categories? The
step is one or two. -/
def Stretch.isSpelledBetween (s : Stretch) (first last step : Nat) : Bool :=
  isSpelling (if first % 2 == 0 then s.even else s.odd) &&
    (step == 2 || Nat.ble last first || Nat.ble s.last first ||
      isSpelling (if first % 2 == 0 then s.odd else s.even))

/-- Do the code points of a span have such categories in some stretches? -/
def areSpelledBetween (last step : Nat) : Nat → List Stretch → Bool
  | _, [] => false
  | first, s :: rest =>
    bif Nat.blt s.last first then areSpelledBetween last step first rest
    else s.isSpelledBetween first last step &&
      (Nat.ble last s.last ||
        areSpelledBetween last step (first + ((s.last - first) / step + 1) * step) rest)

variable {first last step n : Nat}

/-- What the test of a stretch says of its code points. -/
theorem Stretch.isSpelling_of_isSpelledBetween {s : Stretch}
    (h : s.isSpelledBetween first last step) (hfirst : first ≤ n) (hlast : n ≤ last)
    (hstretch : n ≤ s.last) (hn : (n - first) % step = 0) :
    isSpelling (if n % 2 = 0 then s.even else s.odd) := by
  simp only [isSpelledBetween, Bool.and_eq_true, Bool.or_eq_true, beq_iff_eq, Nat.ble_eq] at h
  obtain ⟨hsame, hother⟩ := h
  by_cases hparity : n % 2 = first % 2
  · rwa [hparity]
  · rcases hother with ((h | h) | h) | hother
    · rw [h] at hn
      omega
    · omega
    · omega
    · rcases Nat.mod_two_eq_zero_or_one n with h | h
      · rw [if_neg (by omega)] at hother
        rwa [if_pos h]
      · rw [if_pos (by omega)] at hother
        rwa [if_neg (by omega)]

/-- What the test of some stretches says of their code points. -/
theorem isSpelling_lookup {stretches : List Stretch}
    (h : areSpelledBetween last step first stretches) (hstep : step = 1 ∨ step = 2)
    (hfirst : first ≤ n) (hlast : n ≤ last) (hn : (n - first) % step = 0) :
    isSpelling (lookup n stretches) := by
  induction stretches generalizing first with
  | nil => cases h
  | cons s rest ih =>
    rw [areSpelledBetween] at h
    rw [lookup]
    by_cases hbelow : s.last < first
    · rw [Nat.blt_eq.mpr hbelow, cond_true] at h
      rw [if_neg (by omega)]
      exact ih h hfirst hn
    · have hblt : Nat.blt s.last first = false := by
        rw [Bool.eq_false_iff, ne_eq, Nat.blt_eq]
        exact hbelow
      rw [hblt, cond_false, Bool.and_eq_true, Bool.or_eq_true, Nat.ble_eq] at h
      obtain ⟨hstretch, hrest⟩ := h
      by_cases hin : n ≤ s.last
      · rw [if_pos hin]
        exact Stretch.isSpelling_of_isSpelledBetween hstretch hfirst hlast hin hn
      · rw [if_neg hin]
        rcases hrest with hend | hrest
        · omega
        · refine ih hrest ?_ ?_ <;> rcases hstep with rfl | rfl <;> omega

/-- Do the code points of a span have such categories in the page that they are on? -/
def areSpelledOnPage (first last step : Nat) : List (Nat × List Stretch) → Bool
  | [] => false
  | (top, page) :: rest =>
    bif Nat.blt top first then areSpelledOnPage first last step rest
    else Nat.ble last top && areSpelledBetween last step first page

/-- What the test of a page says of its code points. -/
theorem isSpelling_lookupPage {pages : List (Nat × List Stretch)}
    (h : areSpelledOnPage first last step pages) (hstep : step = 1 ∨ step = 2) (hfirst : first ≤ n)
    (hlast : n ≤ last) (hn : (n - first) % step = 0) : isSpelling (lookupPage n pages) := by
  induction pages with
  | nil => cases h
  | cons p rest ih =>
    rw [areSpelledOnPage] at h
    rw [lookupPage]
    by_cases hbelow : p.1 < first
    · rw [Nat.blt_eq.mpr hbelow, cond_true] at h
      rw [if_neg (by omega)]
      exact ih h
    · have hblt : Nat.blt p.1 first = false := by
        rw [Bool.eq_false_iff, ne_eq, Nat.blt_eq]
        exact hbelow
      rw [hblt, cond_false, Bool.and_eq_true, Nat.ble_eq] at h
      rw [if_pos (by omega)]
      exact isSpelling_lookup h.2 hstep hfirst hlast hn

/-- Is every code point of a span alphabetic or a number? The tables of categories are asked where
nothing has been revised, the list of other alphabetic characters next, and each code point last. -/
def isAlphanumericSpan (first last step : Nat) : Bool :=
  (revisions.all fun r => Nat.blt last r.first || Nat.blt r.last first) &&
      areSpelledOnPage first last step pages ||
    Span.holds first last Letter.otherAlphabetic ||
    (List.range ((last - first) / step + 1)).all fun i =>
      Letter.isAlphanumeric (Char.ofNat (first + i * step))

/-- **What the test says of the characters of the span.** -/
theorem isAlphanumeric_of_isAlphanumericSpan {c : Char} (h : isAlphanumericSpan first last step)
    (hstep : step = 1 ∨ step = 2) (hfirst : first ≤ c.toNat) (hlast : c.toNat ≤ last)
    (hc : (c.toNat - first) % step = 0) : Letter.isAlphanumeric c := by
  simp only [isAlphanumericSpan, Bool.or_eq_true, Bool.and_eq_true, List.all_eq_true,
    Nat.blt_eq] at h
  rcases h with (⟨hrevised, hspelled⟩ | hholds) | heach
  · have hnone : revised? c.toNat = none := by
      rw [revised?, List.find?_eq_none.mpr, Option.map_none]
      intro r hr hin
      rw [Bool.and_eq_true, decide_eq_true_eq, decide_eq_true_eq] at hin
      rcases hrevised r hr with h | h <;> omega
    have hcategory : (Category.of c).isSpelling := by
      rw [of, hnone, Option.getD_none, settled]
      exact isSpelling_lookupPage hspelled hstep hfirst hlast hc
    rw [Letter.isAlphanumeric, isAlphabetic_of_isSpelling hcategory, Bool.true_or]
  · have hcover := Span.cover_of_holds hholds hfirst hlast
    simp [Letter.isAlphanumeric, Letter.isAlphabetic, hcover]
  · have hmem : (c.toNat - first) / step ∈ List.range ((last - first) / step + 1) := by
      rw [List.mem_range, Nat.lt_succ_iff]
      exact Nat.div_le_div_right (by omega)
    have hplace : first + (c.toNat - first) / step * step = c.toNat := by
      rw [Nat.div_mul_cancel (Nat.dvd_of_mod_eq_zero hc)]
      omega
    have h := heach _ hmem
    rwa [hplace, Char.ofNat_toNat] at h

end Category

/-- **Blanks are neither alphabetic nor numbers.** -/
theorem isAlphanumeric_of_isBlank {c : Char} (h : isBlank c) : Letter.isAlphanumeric c = false := by
  have hblanks : ∀ n ∈ [0x9, 0xA, 0xB, 0xC, 0xD, 0x20, 0x85, 0xA0, 0x1680, 0x2000, 0x2001, 0x2002,
      0x2003, 0x2004, 0x2005, 0x2006, 0x2007, 0x2008, 0x2009, 0x200A, 0x2028, 0x2029, 0x202F, 0x205F,
      0x3000], Letter.isAlphanumeric (Char.ofNat n) = false := by
    decide +kernel
  simp only [isBlank, Bool.or_eq_true, Bool.and_eq_true, decide_eq_true_eq, beq_iff_eq] at h
  rw [← Char.ofNat_toNat c]
  exact hblanks _ (by simp; omega)

/-! ### Images -/

namespace Casing

variable {special : List (Nat × List Nat)} {shifts : List Shift} {c d : Char}

/-- Tables that map letters to letters. -/
structure Lettered (special : List (Nat × List Nat)) (shifts : List Shift) : Prop where
  /-- The shifts move letters, to letters. -/
  single : ∀ s ∈ shifts, (s.step == 1 || s.step == 2) &&
    Category.isAlphanumericSpan s.first s.last s.step &&
    Category.isAlphanumericSpan s.imageFirst s.imageLast s.step
  /-- The special images are those of letters, have several characters, and none of these is blank. -/
  several : ∀ p ∈ special, Category.isAlphanumericSpan p.1 p.1 1 && Nat.blt 1 p.2.length &&
    p.2.all fun n => !isBlank (Char.ofNat n)

/-- The mapping to uppercase has such tables. -/
theorem lettered_upper : Lettered upperSpecial upperShifts :=
  ⟨by decide +kernel, by decide +kernel⟩

/-- So has the mapping to lowercase. -/
theorem lettered_lower : Lettered lowerSpecial lowerShifts :=
  ⟨by decide +kernel, by decide +kernel⟩

namespace Lettered

/-- **The ways in which a character comes to its image**, and what they say of letters: it stays, or it
is a letter that becomes several characters none of which is blank, or a letter that becomes another
one. -/
theorem image_cases (h : Lettered special shifts) (hfinal : Final special shifts) (c : Char) :
    image special shifts c = [c] ∨
    (Letter.isAlphanumeric c ∧ 1 < (image special shifts c).length ∧
      ∀ d ∈ image special shifts c, isBlank d = false) ∨
    ∃ d, image special shifts c = [d] ∧ Letter.isAlphanumeric c ∧ Letter.isAlphanumeric d := by
  rcases Casing.image_cases special shifts c with himage | ⟨p, hp, hc, himage⟩ | ⟨s, hs, hmoves, himage⟩
  · exact .inl himage
  · have hseveral := h.several p hp
    simp only [Bool.and_eq_true, Nat.blt_eq, List.all_eq_true, Bool.not_eq_true'] at hseveral
    obtain ⟨⟨hspan, hlength⟩, hblank⟩ := hseveral
    have hletter : Letter.isAlphanumeric c :=
      Category.isAlphanumeric_of_isAlphanumericSpan hspan (.inl rfl) (Nat.le_of_eq hc)
        (Nat.le_of_eq hc.symm) (Nat.mod_one _)
    refine .inr (.inl ⟨hletter, by rwa [himage, List.length_map], fun d hd => ?_⟩)
    rw [himage] at hd
    obtain ⟨n, hn, rfl⟩ := List.mem_map.mp hd
    exact hblank n hn
  · have hsingle := h.single s hs
    simp only [Bool.and_eq_true, Bool.or_eq_true, beq_iff_eq] at hsingle
    obtain ⟨⟨hstep, hspan⟩, hspan'⟩ := hsingle
    obtain ⟨hplace, hlast, htoNat⟩ := hfinal.image_place hs hmoves
    refine .inr (.inr ⟨_, himage, ?_, ?_⟩)
    · exact Category.isAlphanumeric_of_isAlphanumericSpan hspan hstep hmoves.1 hmoves.2.1 hmoves.2.2
    · refine Category.isAlphanumeric_of_isAlphanumericSpan hspan' hstep ?_ ?_ ?_ <;> rw [htoNat]
      · omega
      · exact hlast
      · rw [hplace, Nat.add_sub_cancel_left]
        exact hmoves.2.2

end Lettered

end Casing

end RecordFormula
