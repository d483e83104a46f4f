import Mathlib.Tactic.Common
import RecordFormula.Text.Casing

/-!
# Images of characters

What case mapping makes of a single character, from the tables: a special image, the image of a shift,
or the character itself. In either case no image has another image; this is checked shift by shift.

* `Casing.image_cases` — the ways in which a character comes to its image.
* `Casing.Final` — tables whose images have no other image, as those of both cases are
  (`Casing.final_upper`, `Casing.final_lower`).
* **An image is its own image** (`Casing.image_of_mem_image`), in uppercase
  (`Casing.upper_of_mem_upper`) and in lowercase (`Casing.lower_of_mem_lower`).
-/

namespace RecordFormula

namespace Casing

variable {special : List (Nat × List Nat)} {shifts : List Shift} {c d : Char}

/-! ### Shifts -/

/-- The shift moves the code point. -/
def Shift.Moves (s : Shift) (c : Nat) : Prop :=
  s.first ≤ c ∧ c ≤ s.last ∧ (c - s.first) % s.step = 0

/-- An image under a list of shifts comes from one of them. -/
theorem exists_shift {c n : Nat} :
    ∀ {shifts : List Shift}, shifted? c shifts = some n →
      ∃ s ∈ shifts, s.Moves c ∧ n = (c + s.distance).toNat
  | [], h => by simp [shifted?] at h
  | s :: rest, h => by
    rw [shifted?] at h
    split_ifs at h with hlow hin
    · simp only [Bool.and_eq_true, decide_eq_true_eq, beq_iff_eq] at hin
      exact ⟨s, by simp, ⟨Nat.le_of_not_lt hlow, hin⟩, (Option.some.inj h).symm⟩
    · obtain ⟨s', hs', hmoves⟩ := exists_shift h
      exact ⟨s', List.mem_cons_of_mem _ hs', hmoves⟩

/-- Nothing moves a code point that every shift leaves alone. -/
theorem shifted?_eq_none {n : Nat} :
    ∀ {shifts : List Shift}, (∀ s ∈ shifts, ¬ s.Moves n) → shifted? n shifts = none
  | [], _ => rfl
  | s :: rest, h => by
    have hs := h s (by simp)
    rw [shifted?]
    split_ifs with hlow hin
    · rfl
    · simp only [Bool.and_eq_true, decide_eq_true_eq, beq_iff_eq] at hin
      exact absurd ⟨Nat.le_of_not_lt hlow, hin⟩ hs
    · exact shifted?_eq_none fun t ht => h t (List.mem_cons_of_mem _ ht)

/-- **The ways in which a character comes to its image.** -/
theorem image_cases (special : List (Nat × List Nat)) (shifts : List Shift) (c : Char) :
    image special shifts c = [c] ∨
    (∃ p ∈ special, p.1 = c.toNat ∧ image special shifts c = p.2.map Char.ofNat) ∨
    ∃ s ∈ shifts, s.Moves c.toNat ∧
      image special shifts c = [Char.ofNat (c.toNat + s.distance).toNat] := by
  rw [image]
  split
  · rename_i p hp
    exact .inr (.inl ⟨_, List.mem_of_find?_eq_some hp, by simpa using List.find?_some hp, rfl⟩)
  · cases hshift : shifted? c.toNat shifts with
    | none => exact .inl rfl
    | some n =>
      obtain ⟨s, hs, hmoves, rfl⟩ := exists_shift hshift
      exact .inr (.inr ⟨s, hs, hmoves, rfl⟩)

/-! ### Images without images -/

/-- The image of the first code point of a shift. -/
def Shift.imageFirst (s : Shift) : Nat := (s.first + s.distance).toNat

/-- The image of the last code point of a shift. -/
def Shift.imageLast (s : Shift) : Nat := (s.last + s.distance).toNat

/-- The shift leaves alone every code point from `low` to `high`, or every second one of them. -/
def Shift.spares (s : Shift) (low high : Nat) (everySecond : Bool) : Bool :=
  Nat.blt high s.first || Nat.blt s.last low ||
    (everySecond && s.step == 2 && (low + s.first) % 2 == 1)

/-- A shift does not move what it leaves alone. -/
theorem Shift.not_moves {s : Shift} {low high n : Nat} {everySecond : Bool}
    (h : s.spares low high everySecond) (hlow : low ≤ n) (hhigh : n ≤ high)
    (hsecond : everySecond → (n - low) % 2 = 0) : ¬ s.Moves n := by
  rintro ⟨hfirst, hlast, hstep⟩
  simp only [Shift.spares, Bool.and_eq_true, Bool.or_eq_true, Nat.blt_eq, beq_iff_eq] at h
  rcases h with (h | h) | ⟨⟨heven, htwo⟩, hodd⟩
  · omega
  · omega
  · have := hsecond heven
    rw [htwo] at hstep
    omega

/-- The images of a shift leave room for the others: they are characters, none of them has a special
image, and no shift moves them. -/
def Shift.isFinal (special : List (Nat × List Nat)) (shifts : List Shift) (s : Shift) : Bool :=
  (Nat.blt s.imageLast 0xD800 || Nat.blt 0xDFFF s.imageFirst && Nat.blt s.imageLast 0x110000) &&
    (special.all fun p => Nat.blt p.1 s.imageFirst || Nat.blt s.imageLast p.1 ||
      s.step == 2 && (p.1 + s.imageFirst) % 2 == 1) &&
    shifts.all fun t => t.spares s.imageFirst s.imageLast (s.step == 2 || s.first == s.last)

/-- Tables whose images have no other image. -/
structure Final (special : List (Nat × List Nat)) (shifts : List Shift) : Prop where
  /-- The images of single characters have none. -/
  single : ∀ s ∈ shifts, s.isFinal special shifts && (0 : Int) ≤ s.first + s.distance
  /-- The parts of the images of several characters have none. -/
  several : ∀ p ∈ special, ∀ n ∈ p.2, image special shifts (Char.ofNat n) = [Char.ofNat n]

/-- The mapping to uppercase has such tables. -/
theorem final_upper : Final upperSpecial upperShifts :=
  ⟨by decide +kernel, by decide +kernel⟩

/-- So has the mapping to lowercase. -/
theorem final_lower : Final lowerSpecial lowerShifts :=
  ⟨by decide +kernel, by decide +kernel⟩

/-- A shift moves a code point to a character, and by as many places from the image of its first code
point as the code point is from the first. -/
theorem Final.image_place (h : Final special shifts) {s : Shift} (hs : s ∈ shifts) {c : Nat}
    (hc : s.Moves c) :
    (c + s.distance).toNat = s.imageFirst + (c - s.first) ∧ (c + s.distance).toNat ≤ s.imageLast ∧
      (Char.ofNat (c + s.distance).toNat).toNat = (c + s.distance).toNat := by
  obtain ⟨hfirst, hlast, -⟩ := hc
  have hfinal := h.single s hs
  simp only [Shift.isFinal, Bool.and_eq_true, Bool.or_eq_true, Nat.blt_eq, decide_eq_true_eq] at hfinal
  obtain ⟨⟨⟨hvalid, -⟩, -⟩, hpos⟩ := hfinal
  have hn : (c + s.distance).toNat = s.imageFirst + (c - s.first) := by
    unfold Shift.imageFirst
    omega
  have hhigh : (c + s.distance).toNat ≤ s.imageLast := by
    unfold Shift.imageLast
    omega
  have hchar : (c + s.distance).toNat.isValidChar := by
    rcases hvalid with h | h
    · exact .inl (by omega)
    · exact .inr (by omega)
  refine ⟨hn, hhigh, ?_⟩
  rw [Char.ofNat, dif_pos hchar]
  rfl

/-- The image of a code point that a shift moves has no other image. -/
theorem Final.image_of_moves (h : Final special shifts) {s : Shift} (hs : s ∈ shifts) {c : Nat}
    (hc : s.Moves c) :
    image special shifts (Char.ofNat (c + s.distance).toNat) =
      [Char.ofNat (c + s.distance).toNat] := by
  obtain ⟨hn, hhigh, htoNat⟩ := h.image_place hs hc
  obtain ⟨hfirst, hlast, hstep⟩ := hc
  have hfinal := h.single s hs
  simp only [Shift.isFinal, Bool.and_eq_true, Bool.or_eq_true, List.all_eq_true, Nat.blt_eq,
    beq_iff_eq, decide_eq_true_eq] at hfinal
  obtain ⟨⟨⟨-, hspecial⟩, hshifts⟩, -⟩ := hfinal
  generalize (c + s.distance).toNat = n at hn hhigh htoNat ⊢
  have hnone : special.find? (·.1 == n) = none := by
    refine List.find?_eq_none.mpr fun p hp heq => ?_
    have heq : p.1 = n := by simpa using heq
    rcases hspecial p hp with (h | h) | ⟨h, hodd⟩
    · omega
    · omega
    · rw [h] at hstep
      omega
  have hstay : shifted? n shifts = none := by
    refine shifted?_eq_none fun t ht => Shift.not_moves (hshifts t ht) (by omega) hhigh ?_
    rw [Bool.or_eq_true, beq_iff_eq, beq_iff_eq]
    rintro (h | h)
    · rw [h] at hstep
      omega
    · omega
  simp [image, htoNat, hnone, hstay]

/-- **An image is its own image.** -/
theorem Final.image_of_mem_image (h : Final special shifts) (hd : d ∈ image special shifts c) :
    image special shifts d = [d] := by
  rcases image_cases special shifts c with himage | ⟨p, hp, -, himage⟩ | ⟨s, hs, hmoves, himage⟩
  · rw [himage, List.mem_singleton] at hd
    rw [hd, himage]
  · rw [himage] at hd
    obtain ⟨n, hn, rfl⟩ := List.mem_map.mp hd
    exact h.several p hp n hn
  · rw [himage, List.mem_singleton] at hd
    rw [hd]
    exact h.image_of_moves hs hmoves

/-- What is in uppercase stays as it is in uppercase. -/
theorem upper_of_mem_upper (h : d ∈ upper c) : upper d = [d] := final_upper.image_of_mem_image h

/-- What is in lowercase stays as it is in lowercase. -/
theorem lower_of_mem_lower (h : d ∈ lower c) : lower d = [d] := final_lower.image_of_mem_image h

end Casing

end RecordFormula
