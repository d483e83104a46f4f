import Mathlib.Data.List.TakeWhile
import RecordFormula.Text.Blank

/-!
# Trimming

Trimming takes the blanks at the ends of a text and nothing else.

* **A text with no blank at its ends stays** (`Text.trim_of_ends`), and **a trimmed text has none there**
  (`Text.isBlank_of_mem_head?_trim`, `Text.isBlank_of_mem_getLast?_trim`).
* `Text.mem_trim` — what is not blank stays.
-/

namespace RecordFormula

namespace Text

variable {c : Char} {cs : List Char} {s : String}

/-- Characters the first of which is not blank are left alone. -/
theorem trimStart_eq_self (h : ∀ c ∈ cs.head?, isBlank c = false) : trimStart cs = cs := by
  cases cs with
  | nil => rfl
  | cons c cs => exact List.dropWhile_cons_of_neg (by simp [h c rfl])

/-- **A text with no blank at its ends stays.** -/
theorem trim_of_ends (hhead : ∀ c ∈ s.toList.head?, isBlank c = false)
    (hlast : ∀ c ∈ s.toList.getLast?, isBlank c = false) : trim s = s := by
  have hreverse : ∀ c ∈ s.toList.reverse.head?, isBlank c = false := by
    rwa [List.head?_reverse]
  rw [trim, trimStart_eq_self hhead, trimEnd, trimStart_eq_self hreverse, List.reverse_reverse,
    String.ofList_toList]

/-- A text without blanks stays. -/
theorem trim_eq_self (h : ∀ c ∈ s.toList, isBlank c = false) : trim s = s :=
  trim_of_ends (fun c hc => h c (List.mem_of_mem_head? hc)) fun c hc =>
    h c (List.mem_of_mem_getLast? hc)

/-- The first character that is left is not blank. -/
theorem isBlank_of_mem_head?_trimStart (hc : c ∈ (trimStart cs).head?) : isBlank c = false := by
  have hnot := List.head?_dropWhile_not isBlank cs
  rw [trimStart, Option.mem_def] at hc
  rw [hc] at hnot
  simpa using hnot

/-- What is trimmed at the end is the start of the whole. -/
theorem trimEnd_prefix (cs : List Char) : trimEnd cs <+: cs := by
  have hsuffix : trimStart cs.reverse <:+ cs.reverse := List.dropWhile_suffix isBlank
  simpa [trimEnd] using List.reverse_prefix.mpr hsuffix

/-- **A trimmed text does not start with a blank.** -/
theorem isBlank_of_mem_head?_trim (hc : c ∈ (trim s).toList.head?) : isBlank c = false := by
  rw [trim, String.toList_ofList] at hc
  obtain ⟨rest, hrest⟩ := trimEnd_prefix (trimStart s.toList)
  have hstart : c ∈ (trimStart s.toList).head? := by
    rw [← hrest, List.head?_append, hc, Option.some_or]
    rfl
  exact isBlank_of_mem_head?_trimStart hstart

/-- **Nor does it end with one.** -/
theorem isBlank_of_mem_getLast?_trim (hc : c ∈ (trim s).toList.getLast?) : isBlank c = false := by
  rw [trim, String.toList_ofList, trimEnd, List.getLast?_reverse] at hc
  exact isBlank_of_mem_head?_trimStart hc

/-- A character that is not blank stays. -/
theorem mem_trimStart (hc : c ∈ cs) (hblank : isBlank c = false) : c ∈ trimStart cs := by
  rw [← List.takeWhile_append_dropWhile (p := isBlank) (l := cs)] at hc
  rcases List.mem_append.mp hc with hc | hc
  · rw [List.mem_takeWhile_imp hc] at hblank
    cases hblank
  · exact hc

/-- A character that is not blank stays in a text without blanks at its ends. -/
theorem mem_trim (hc : c ∈ s.toList) (hblank : isBlank c = false) : c ∈ (trim s).toList := by
  have hstart := mem_trimStart hc hblank
  have hend : c ∈ trimEnd (trimStart s.toList) :=
    List.mem_reverse.mpr (mem_trimStart (List.mem_reverse.mpr hstart) hblank)
  rw [trim, String.toList_ofList]
  exact hend

end Text

end RecordFormula
