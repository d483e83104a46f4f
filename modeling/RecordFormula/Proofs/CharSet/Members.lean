import Mathlib.Order.Nat
import Mathlib.Tactic.SplitIfs
import RecordFormula.CharSet.Property
import RecordFormula.Text.Blank

/-!
# Members of sets of characters

A set is searched from its first range on and no further than its ranges ascend. So its ranges have
to ascend, and all ways to make a set see to that.

* `CharSet.Ascending` — ranges that are not empty and ascend with a gap between any two.
* `CharSet.Holds` — what some ranges hold, in any order; this is what an ascending set contains
  (`CharSet.contains_iff`).
* **The union of sets and the complement of a set contain what they should**
  (`CharSet.contains_union`, `CharSet.contains_unionAll`, `CharSet.contains_complement`), and their
  ranges ascend.
* **The set of blanks contains the blanks** (`CharSet.contains_whiteSpace`).
-/

namespace RecordFormula

namespace CharSet

variable {n start first last a b : Nat} {ranges rest : List (Nat × Nat)} {s t : CharSet} {c d : Char}

/-! ### Ranges -/

/-- Ranges that are not empty and ascend with a gap between any two. -/
structure Ascending (ranges : List (Nat × Nat)) : Prop where
  /-- No range is empty. -/
  nonempty : ∀ r ∈ ranges, r.1 ≤ r.2
  /-- Between two ranges is a gap. -/
  apart : ranges.Pairwise fun r s => r.2 + 1 < s.1

/-- One of the ranges holds the code point. -/
def Holds (ranges : List (Nat × Nat)) (n : Nat) : Prop := ∃ r ∈ ranges, r.1 ≤ n ∧ n ≤ r.2

@[simp] theorem not_holds_nil : ¬ Holds [] n := by simp [Holds]

@[simp] theorem holds_cons : Holds ((a, b) :: rest) n ↔ (a ≤ n ∧ n ≤ b) ∨ Holds rest n := by
  simp [Holds]

theorem ascending_nil : Ascending [] := ⟨by simp, .nil⟩

theorem ascending_cons :
    Ascending ((a, b) :: rest) ↔ a ≤ b ∧ (∀ r ∈ rest, b + 1 < r.1) ∧ Ascending rest := by
  constructor
  · intro h
    obtain ⟨hhead, htail⟩ := List.pairwise_cons.mp h.apart
    exact ⟨h.nonempty _ List.mem_cons_self, hhead,
      fun r hr => h.nonempty r (List.mem_cons_of_mem _ hr), htail⟩
  · rintro ⟨hle, hhead, hrest⟩
    refine ⟨fun r hr => ?_, List.pairwise_cons.mpr ⟨hhead, hrest.apart⟩⟩
    rcases List.mem_cons.mp hr with rfl | hr
    · exact hle
    · exact hrest.nonempty r hr

/-- Ranges hold nothing that is before all of them. -/
theorem not_holds_of_lt (h : ∀ r ∈ ranges, n < r.1) : ¬ Holds ranges n := by
  rintro ⟨r, hr, hle, -⟩
  have := h r hr
  omega

/-- **Ascending ranges are searched in full.** -/
theorem coveredBy_iff (h : Ascending ranges) : coveredBy n ranges ↔ Holds ranges n := by
  induction ranges with
  | nil => simp [coveredBy]
  | cons r rest ih =>
    obtain ⟨a, b⟩ := r
    obtain ⟨hle, hhead, hrest⟩ := ascending_cons.mp h
    rw [coveredBy, holds_cons]
    split_ifs with hlt
    · -- all that follows is greater still
      have hnone : ¬ Holds rest n := not_holds_of_lt fun r hr => by
        have := hhead r hr
        omega
      simp [hnone]
      omega
    · rw [Bool.or_eq_true, decide_eq_true_eq, ih hrest]
      simp [Nat.le_of_not_lt hlt]

/-- A range that is inserted is held besides the others. -/
theorem holds_insertRange :
    Holds (insertRange first last ranges) n ↔ (first ≤ n ∧ n ≤ last) ∨ Holds ranges n := by
  fun_induction insertRange first last ranges with
  | case1 => simp
  | case2 => simp
  | case3 first last a b rest hgap hgap' ih => simp [ih, or_left_comm]
  | case4 first last a b rest hgap hgap' ih =>
    rw [ih, holds_cons, ← or_assoc]
    refine or_congr_left ?_
    omega

/-- Ranges still ascend with a range inserted. -/
theorem Ascending.insertRange (h : Ascending ranges) (hle : first ≤ last) :
    Ascending (insertRange first last ranges) := by
  fun_induction CharSet.insertRange first last ranges with
  | case1 => exact ascending_cons.mpr ⟨hle, by simp, ascending_nil⟩
  | case2 first last a b rest hgap =>
    refine ascending_cons.mpr ⟨hle, fun r hr => ?_, h⟩
    obtain ⟨hab, hhead, -⟩ := ascending_cons.mp h
    rcases List.mem_cons.mp hr with rfl | hr
    · exact hgap
    · have := hhead r hr
      omega
  | case3 first last a b rest hgap hgap' ih =>
    obtain ⟨hab, hhead, hrest⟩ := ascending_cons.mp h
    have hsorted := ih hrest hle
    refine ascending_cons.mpr ⟨hab, fun r hr => ?_, hsorted⟩
    -- the start of a range is held, so it is in the new one or in one of the others
    have hheld : Holds (CharSet.insertRange first last rest) r.1 :=
      ⟨r, hr, le_rfl, hsorted.nonempty r hr⟩
    rcases holds_insertRange.mp hheld with hnew | ⟨q, hq, hle', -⟩
    · omega
    · have := hhead q hq
      omega
  | case4 first last a b rest hgap hgap' ih =>
    obtain ⟨hab, -, hrest⟩ := ascending_cons.mp h
    exact ih hrest (by omega)

/-! ### Sets -/

/-- **An ascending set contains what its ranges hold.** -/
theorem contains_iff (h : Ascending s.ranges) : s.contains c ↔ Holds s.ranges c.toNat :=
  coveredBy_iff h

/-- The set of some ranges ascends. -/
theorem ascending_ofRanges (h : ∀ r ∈ ranges, r.1 ≤ r.2) : Ascending (ofRanges ranges).ranges := by
  induction ranges with
  | nil => exact ascending_nil
  | cons r rest ih =>
    have hrest := ih fun q hq => h q (List.mem_cons_of_mem r hq)
    exact hrest.insertRange (h r List.mem_cons_self)

/-- The set of some ranges holds what they hold. -/
theorem holds_ofRanges : Holds (ofRanges ranges).ranges n ↔ Holds ranges n := by
  induction ranges with
  | nil => rfl
  | cons r rest ih =>
    obtain ⟨a, b⟩ := r
    rw [holds_cons, ← ih]
    exact holds_insertRange

/-- The set of a character ascends. -/
theorem ascending_singleton (c : Char) : Ascending (singleton c).ranges :=
  ascending_cons.mpr ⟨le_rfl, by simp, ascending_nil⟩

/-- The set of a character contains nothing else. -/
theorem contains_singleton : (singleton c).contains d ↔ d = c := by
  rw [contains_iff (ascending_singleton c), singleton, holds_cons]
  constructor
  · rintro (⟨hle, hle'⟩ | h)
    · exact Char.ext (UInt32.toNat_inj.mp (Nat.le_antisymm hle' hle))
    · exact absurd h not_holds_nil
  · rintro rfl
    exact .inl ⟨le_rfl, le_rfl⟩

/-! ### Unions -/

/-- The ranges of two sets are those of both. -/
theorem mem_merge_ranges {r : Nat × Nat} :
    r ∈ s.ranges.merge t.ranges (fun a b => a.1 ≤ b.1) ↔ r ∈ s.ranges ∨ r ∈ t.ranges := by
  simp [List.mem_merge]

/-- A union holds what either of two sets holds. -/
theorem holds_union : Holds (s.union t).ranges n ↔ Holds s.ranges n ∨ Holds t.ranges n := by
  rw [union, holds_ofRanges]
  simp only [Holds, mem_merge_ranges, or_and_right, exists_or]

/-- The union of ascending sets ascends. -/
theorem ascending_union (hs : Ascending s.ranges) (ht : Ascending t.ranges) :
    Ascending (s.union t).ranges := by
  apply ascending_ofRanges
  intro r hr
  rcases mem_merge_ranges.mp hr with hr | hr
  · exact hs.nonempty r hr
  · exact ht.nonempty r hr

/-- **A union contains what is in either of two sets.** -/
theorem contains_union (hs : Ascending s.ranges) (ht : Ascending t.ranges) :
    (s.union t).contains c ↔ s.contains c ∨ t.contains c := by
  rw [contains_iff (ascending_union hs ht), contains_iff hs, contains_iff ht, holds_union]

/-- The union of several ascending sets ascends. -/
theorem ascending_unionAll {sets : List CharSet} (h : ∀ s ∈ sets, Ascending s.ranges) :
    Ascending (unionAll sets).ranges := by
  induction sets with
  | nil => exact ascending_nil
  | cons s rest ih =>
    exact ascending_union (h s List.mem_cons_self)
      (ih fun t ht => h t (List.mem_cons_of_mem s ht))

/-- **A union contains what is in one of several sets.** -/
theorem contains_unionAll {sets : List CharSet} (h : ∀ s ∈ sets, Ascending s.ranges) :
    (unionAll sets).contains c ↔ ∃ s ∈ sets, s.contains c := by
  induction sets with
  | nil => simp [unionAll, contains, covers, empty, coveredBy]
  | cons s rest ih =>
    have hrest : ∀ t ∈ rest, Ascending t.ranges := fun t ht => h t (List.mem_cons_of_mem s ht)
    have hunion := contains_union (c := c) (h s List.mem_cons_self) (ascending_unionAll hrest)
    rw [ih hrest] at hunion
    simpa [unionAll] using hunion

/-! ### Complements -/

section gaps

variable (h : Ascending ranges) (hstart : ∀ r ∈ ranges, start ≤ r.1)

include h hstart

/-- No gap starts before the given code point. -/
theorem start_le_of_mem_gaps {r : Nat × Nat} (hr : r ∈ gaps start ranges) : start ≤ r.1 := by
  fun_induction gaps start ranges with
  | case1 start hle =>
    obtain rfl := List.mem_singleton.mp hr
    exact le_rfl
  | case2 start hle => exact absurd hr List.not_mem_nil
  | case3 start a b rest hlt ih =>
    obtain ⟨hab, hhead, hrest⟩ := ascending_cons.mp h
    rcases List.mem_cons.mp hr with rfl | hr
    · exact le_rfl
    · have := ih hrest (fun q hq => (hhead q hq).le) hr
      omega
  | case4 start a b rest hlt ih =>
    obtain ⟨hab, hhead, hrest⟩ := ascending_cons.mp h
    have hle := hstart (a, b) List.mem_cons_self
    have := ih hrest (fun q hq => (hhead q hq).le) hr
    simp only at hle
    omega

/-- The gaps hold what the ranges do not. -/
theorem holds_gaps (hn : n ≤ 0x10FFFF) :
    Holds (gaps start ranges) n ↔ start ≤ n ∧ ¬ Holds ranges n := by
  fun_induction gaps start ranges with
  | case1 start hle => simp [hn]
  | case2 start hle =>
    simp
    omega
  | case3 start a b rest hlt ih =>
    obtain ⟨hab, hhead, hrest⟩ := ascending_cons.mp h
    have hbelow : n ≤ b → ¬ Holds rest n := fun hle => not_holds_of_lt fun q hq => by
      have := hhead q hq
      omega
    rw [holds_cons, ih hrest fun q hq => (hhead q hq).le, holds_cons]
    by_cases hr : Holds rest n
    · have : b < n := Nat.lt_of_not_le fun hle => hbelow hle hr
      simp only [hr, not_true_eq_false, and_false, or_true, or_false, iff_false]
      omega
    · simp only [hr, not_false_iff, and_true, or_false]
      omega
  | case4 start a b rest hlt ih =>
    obtain ⟨hab, hhead, hrest⟩ := ascending_cons.mp h
    have hle := hstart (a, b) List.mem_cons_self
    rw [ih hrest fun q hq => (hhead q hq).le, holds_cons]
    simp only at hle
    by_cases hr : Holds rest n
    · simp [hr]
    · simp only [hr, not_false_iff, and_true, or_false]
      omega

/-- The gaps ascend. -/
theorem ascending_gaps : Ascending (gaps start ranges) := by
  fun_induction gaps start ranges with
  | case1 start hle => exact ascending_cons.mpr ⟨hle, by simp, ascending_nil⟩
  | case2 start hle => exact ascending_nil
  | case3 start a b rest hlt ih =>
    obtain ⟨hab, hhead, hrest⟩ := ascending_cons.mp h
    have hnext : ∀ q ∈ rest, b + 1 ≤ q.1 := fun q hq => (hhead q hq).le
    refine ascending_cons.mpr ⟨by omega, fun r hr => ?_, ih hrest hnext⟩
    have := start_le_of_mem_gaps hrest hnext hr
    omega
  | case4 start a b rest hlt ih =>
    obtain ⟨hab, hhead, hrest⟩ := ascending_cons.mp h
    exact ih hrest fun q hq => (hhead q hq).le

end gaps

/-- The code points that are no characters ascend. -/
theorem ascending_surrogates : Ascending surrogates.ranges :=
  ascending_cons.mpr ⟨by decide, by simp, ascending_nil⟩

/-- The complement of an ascending set ascends. -/
theorem ascending_complement (hs : Ascending s.ranges) : Ascending s.complement.ranges :=
  ascending_gaps (ascending_union ascending_surrogates hs) fun _ _ => Nat.zero_le _

/-- **A complement contains what is not in the set.** -/
theorem contains_complement (hs : Ascending s.ranges) :
    s.complement.contains c ↔ ¬ s.contains c := by
  have hvalid : c.toNat < 0xD800 ∨ 0xDFFF < c.toNat ∧ c.toNat < 0x110000 := c.valid
  have hsurrogate : ¬ Holds surrogates.ranges c.toNat := by
    simp [surrogates]
    omega
  rw [contains_iff (ascending_complement hs), contains_iff hs, complement,
    holds_gaps (ascending_union ascending_surrogates hs) (fun _ _ => Nat.zero_le _) (by omega),
    holds_union]
  simp [hsurrogate]

/-! ### Blanks -/

/-- The spans of blanks are ranges, of which none is empty. -/
theorem le_of_mem_whiteSpaceSpans : ∀ r ∈ whiteSpaceSpans.flatMap rangesOfSpan, r.1 ≤ r.2 := by
  decide

/-- The set of blanks ascends. -/
theorem ascending_whiteSpace : Ascending whiteSpace.ranges :=
  ascending_ofRanges le_of_mem_whiteSpaceSpans

/-- **The set of blanks contains the blanks.** -/
theorem contains_whiteSpace : whiteSpace.contains c ↔ isBlank c := by
  have hholds : Holds whiteSpace.ranges c.toNat ↔
      Holds (whiteSpaceSpans.flatMap rangesOfSpan) c.toNat := holds_ofRanges
  rw [contains_iff ascending_whiteSpace, hholds]
  simp [whiteSpaceSpans, rangesOfSpan, isBlank]
  omega

end CharSet

end RecordFormula
