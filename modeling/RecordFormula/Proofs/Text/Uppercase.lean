import RecordFormula.Proofs.Text.Images
import RecordFormula.Text.Case

/-!
# Uppercase once

A text in uppercase is not changed by putting it in uppercase again.

* **Uppercase is final** (`Text.upper_upper`).
* `Text.upper_of_lt` — the texts that are spelled in capitals.
-/

namespace RecordFormula

namespace Casing

/-- The characters before the small letters are their own images. -/
theorem upper_of_lt {c : Char} (h : c.toNat < 0x61) : upper c = [c] := by
  have hspecial : upperSpecial.find? (·.1 == c.toNat) = none := by
    have hall : ∀ p ∈ upperSpecial, 0x61 ≤ p.1 := by decide
    refine List.find?_eq_none.mpr fun p hp heq => ?_
    have hp := hall p hp
    rw [beq_iff_eq.mp heq] at hp
    omega
  have hstay : shifted? c.toNat upperShifts = none := if_pos h
  simp [upper, image, hspecial, hstay]

end Casing

namespace Text

/-- A text of characters that are their own images is its own image. -/
theorem upper_of_forall {s : String} (h : ∀ c ∈ s.toList, Casing.upper c = [c]) :
    Text.upper s = s := by
  have hcs : ∀ cs : List Char, (∀ c ∈ cs, Casing.upper c = [c]) → cs.flatMap Casing.upper = cs := by
    intro cs hcs
    induction cs with
    | nil => rfl
    | cons c rest ih =>
      rw [List.flatMap_cons, hcs c (by simp), ih fun d hd => hcs d (List.mem_cons_of_mem _ hd)]
      rfl
  rw [Text.upper, hcs _ h, String.ofList_toList]

/-- **Uppercase is final.** -/
theorem upper_upper (s : String) : Text.upper (Text.upper s) = Text.upper s := by
  refine upper_of_forall fun d hd => ?_
  rw [Text.upper, String.toList_ofList] at hd
  obtain ⟨c, -, hd⟩ := List.mem_flatMap.mp hd
  exact Casing.upper_of_mem_upper hd

/-- A text without small letters, and of nothing beyond them, is in uppercase. -/
theorem upper_of_lt {s : String} (h : s.toList.all (·.toNat < 0x61)) : Text.upper s = s :=
  upper_of_forall fun c hc => Casing.upper_of_lt (by simpa using List.all_eq_true.mp h c hc)

end Text

end RecordFormula
