import RecordFormula.Operator
import RecordFormula.Proofs.Number.Order

/-!
# The order of values

The order and the equality of formulas fit together.

* `BothTexts` — two values that are compared as texts; all others are compared as numbers.
* **Turning the operands round turns the order round** (`compare?_swap`).
* `MeetAsScalars` — two values that equality does not compare part by part; **they are equal exactly
  if neither comes first** (`looseEq_eq_compare?`).
* **The comparisons fit together, and with equality** (`comparisons_coherent`).
-/

namespace RecordFormula

namespace Value

open Number (isNaN)

/-! ### Texts and numbers -/

section kinds

variable {x y : Float} {s t : String}

/-- Of two texts that do not come in order the other comes first, unless they are the same. -/
theorem lt_of_not_lt (hst : ¬ s < t) (hne : s ≠ t) : t < s :=
  Std.lt_of_le_of_ne (String.not_lt.mp hst) hne.symm

/-- Turning two texts round turns their order round. -/
theorem compareTexts_swap (s t : String) : compareTexts t s = (compareTexts s t).swap := by
  unfold compareTexts
  by_cases hst : s < t
  · have hne : t ≠ s := fun h => String.lt_irrefl s (h ▸ hst)
    rw [if_neg (String.lt_asymm hst), if_neg hne, if_pos hst]
    rfl
  · by_cases heq : s = t
    · rw [heq, if_neg (String.lt_irrefl t), if_pos rfl]
      rfl
    · rw [if_pos (lt_of_not_lt hst heq), if_neg hst, if_neg heq]
      rfl

/-- Neither of two texts comes first exactly if they are the same. -/
theorem compareTexts_eq_eq_iff : compareTexts s t = .eq ↔ s = t := by
  unfold compareTexts
  by_cases hst : s < t
  · have hne : s ≠ t := fun h => String.lt_irrefl s (h ▸ hst)
    simp [hst, hne]
  · by_cases heq : s = t <;> simp [hst, heq]

/-- Two numbers are ordered by their parts. -/
theorem compareNumbers?_eq (x y : Float) : compareNumbers? x y = Number.order? x y := by
  unfold compareNumbers?
  simp only [gt_iff_lt, Number.lt_iff_order?, Number.beq_iff_order?, Number.order?_swap x y]
  cases Number.order? x y with
  | none => simp
  | some o => cases o <;> simp

end kinds

/-! ### The order -/

section order

variable {a b : Value}

/-- The two values are compared as texts: arrays and objects count as texts. -/
def BothTexts (a b : Value) : Prop := ∃ s t, a.collapse = .text s ∧ b.collapse = .text t

/-- Two values that are compared as texts have an order. -/
theorem BothTexts.compare?_eq {s t : String} (ha : a.collapse = .text s)
    (hb : b.collapse = .text t) : a.compare? b = some (compareTexts s t) := by
  unfold compare?
  rw [ha, hb]

/-- All other values are compared as numbers. -/
theorem compare?_of_not_bothTexts (h : ¬ BothTexts a b) :
    a.compare? b = Number.order? a.collapse.toNumber b.collapse.toNumber := by
  rw [← compareNumbers?_eq]
  unfold compare?
  split
  · rename_i s t ha hb
    exact absurd ⟨s, t, ha, hb⟩ h
  · rfl

/-- It does not matter which of the two values is named first. -/
theorem BothTexts.symm (h : BothTexts a b) : BothTexts b a :=
  let ⟨s, t, ha, hb⟩ := h
  ⟨t, s, hb, ha⟩

/-- **Turning the operands round turns the order round.** -/
theorem compare?_swap (a b : Value) : b.compare? a = (a.compare? b).map Ordering.swap := by
  by_cases h : BothTexts a b
  · obtain ⟨s, t, ha, hb⟩ := h
    rw [BothTexts.compare?_eq ha hb, BothTexts.compare?_eq hb ha, compareTexts_swap]
    rfl
  · rw [compare?_of_not_bothTexts h, compare?_of_not_bothTexts (mt BothTexts.symm h),
      Number.order?_swap]

/-- Only values that are not compared as texts, and of which one is not a number, have no order. -/
theorem compare?_eq_none_iff :
    a.compare? b = none ↔
      ¬ BothTexts a b ∧ (isNaN a.collapse.toNumber = true ∨ isNaN b.collapse.toNumber = true) := by
  by_cases h : BothTexts a b
  · obtain ⟨s, t, ha, hb⟩ := h
    rw [BothTexts.compare?_eq ha hb]
    simp [show BothTexts a b from ⟨s, t, ha, hb⟩]
  · rw [compare?_of_not_bothTexts h, Number.order?_eq_none_iff]
    simp [h]

end order

/-! ### Conversions -/

section conversions

variable {a b : Value}

/-- Arrays and objects stand where their texts stand. -/
theorem compare?_collapse_left (a b : Value) : a.collapse.compare? b = a.compare? b := by
  unfold compare?
  cases a <;> rfl

/-- A truth value stands where its number stands. -/
theorem compare?_boolean_left (p : Bool) (b : Value) :
    compare? (.number (toNumber (.boolean p))) b = compare? (.boolean p) b := by
  unfold compare?
  cases collapse b <;> rfl

/-- Arrays and objects stand where their texts stand, also on the right. -/
theorem compare?_collapse_right (a b : Value) : a.compare? b.collapse = a.compare? b := by
  rw [compare?_swap b.collapse, compare?_collapse_left, ← compare?_swap]

/-- A truth value stands where its number stands, also on the right. -/
theorem compare?_boolean_right (a : Value) (q : Bool) :
    compare? a (.number (toNumber (.boolean q))) = compare? a (.boolean q) := by
  rw [compare?_swap (.number _), compare?_boolean_left, ← compare?_swap]

end conversions

/-! ### Equality -/

section equality

variable {a b : Value}

/-- The two values are not compared part by part, nor is one of them nothing. -/
structure MeetAsScalars (a b : Value) : Prop where
  /-- The first is something. -/
  left : a ≠ .null
  /-- The second is something. -/
  right : b ≠ .null
  /-- They are not two arrays. -/
  arrays : ∀ as bs, ¬(a = .array as ∧ b = .array bs)
  /-- They are not two objects. -/
  objects : ∀ as bs, ¬(a = .object as ∧ b = .object bs)

/-- Of values that are compared as numbers neither comes first exactly if the numbers are equal. -/
theorem compare?_beq_eq_of_not_bothTexts (h : ¬ BothTexts a b) :
    (a.compare? b == some .eq) = (a.collapse.toNumber == b.collapse.toNumber) := by
  rw [compare?_of_not_bothTexts h, Bool.eq_iff_iff, beq_iff_eq, Number.beq_iff_order?]

/-- Of texts neither comes first exactly if they are the same. -/
theorem compare?_beq_eq_texts (s t : String) :
    (compare? (.text s) (.text t) == some .eq) = (s == t) := by
  rw [BothTexts.compare?_eq rfl rfl, Bool.eq_iff_iff, beq_iff_eq, beq_iff_eq, Option.some_inj,
    compareTexts_eq_eq_iff]

/-- **Values that are not compared part by part are equal exactly if neither comes first.** -/
theorem looseEq_eq_compare? (h : MeetAsScalars a b) :
    a.looseEq b = (a.compare? b == some .eq) := by
  -- along the conversions that equality makes: each leaves the order as it is
  fun_induction looseEq a b with
  | case1 => exact absurd rfl h.left
  | case2 b hb => exact absurd rfl h.left
  | case3 a ha => exact absurd rfl h.right
  | case4 x y =>
    rw [compare?_beq_eq_of_not_bothTexts (by rintro ⟨s, t, hs, -⟩; cases hs)]
    rfl
  | case5 s t => rw [compare?_beq_eq_texts]
  | case6 p q =>
    rw [compare?_beq_eq_of_not_bothTexts (by rintro ⟨s, t, hs, -⟩; cases hs)]
    cases p <;> cases q <;> rfl
  | case7 as bs => exact absurd ⟨rfl, rfl⟩ (h.arrays as bs)
  | case8 as bs => exact absurd ⟨rfl, rfl⟩ (h.objects as bs)
  | case9 p b hb _ ih =>
    rw [ih ⟨by simp, hb, by simp, by simp⟩, compare?_boolean_left]
  | case10 a q ha _ ih =>
    rw [ih ⟨ha, by simp, by simp, by simp⟩, compare?_boolean_right]
  | case11 x t =>
    rw [compare?_beq_eq_of_not_bothTexts (by rintro ⟨s, t, hs, -⟩; cases hs)]
    rfl
  | case12 s y =>
    rw [compare?_beq_eq_of_not_bothTexts (by rintro ⟨s, t, -, ht⟩; cases ht)]
    rfl
  | case13 as b hb _ _ ih =>
    rw [ih ⟨by simp, hb, by simp, by simp⟩]
    exact congrArg (· == some .eq) (compare?_collapse_left (.array as) b)
  | case14 as b hb _ _ ih =>
    rw [ih ⟨by simp, hb, by simp, by simp⟩]
    exact congrArg (· == some .eq) (compare?_collapse_left (.object as) b)
  | case15 a bs ha _ _ _ ih =>
    rw [ih ⟨ha, by simp, by simp, by simp⟩]
    exact congrArg (· == some .eq) (compare?_collapse_right a (.array bs))
  | case16 a bs ha _ _ _ ih =>
    rw [ih ⟨ha, by simp, by simp, by simp⟩]
    exact congrArg (· == some .eq) (compare?_collapse_right a (.object bs))

end equality

/-! ### The comparisons of formulas -/

section operators

open Operator (apply)

variable {a b : Value}

/-- A value is less than another if the other is greater. -/
theorem apply_less (a b : Value) : apply .less a b = apply .greater b a := by
  unfold apply
  rw [compare?_swap a b]
  cases a.compare? b with
  | none => rfl
  | some o => cases o <;> rfl

/-- A value is less than or equal to another if the other is greater or equal. -/
theorem apply_lessOrEqual (a b : Value) : apply .lessOrEqual a b = apply .greaterOrEqual b a := by
  unfold apply
  rw [compare?_swap a b]
  cases a.compare? b with
  | none => rfl
  | some o => cases o <;> rfl

/-- Values without an order are in none. -/
theorem apply_of_unordered (h : a.compare? b = none) :
    ∀ op ∈ [.less, .greater, .lessOrEqual, .greaterOrEqual],
      apply op a b = .ok (.boolean false) := by
  intro op hop
  fin_cases hop <;> simp only [apply, h] <;> rfl

/-- Neither of two values comes first exactly if each is less than or equal to the other. -/
theorem compare?_eq_eq_iff_apply :
    a.compare? b = some .eq ↔
      apply .lessOrEqual a b = .ok (.boolean true) ∧
        apply .greaterOrEqual a b = .ok (.boolean true) := by
  unfold apply
  cases a.compare? b with
  | none => simp
  | some o => cases o <;> simp

/-- **The comparisons fit together, and with equality.** The order goes both ways, so that a value
is less than another exactly if the other is greater; only values that are not both texts, and of
which one is not a number, have no order, and then none of the comparisons holds; and two values
that are not compared part by part are equal exactly if neither comes first. -/
theorem comparisons_coherent (a b : Value) :
    b.compare? a = (a.compare? b).map Ordering.swap ∧
      apply .less a b = apply .greater b a ∧
      apply .lessOrEqual a b = apply .greaterOrEqual b a ∧
      (a.compare? b = none ↔
        ¬ BothTexts a b ∧
          (isNaN a.collapse.toNumber = true ∨ isNaN b.collapse.toNumber = true)) ∧
      (a.compare? b = none →
        ∀ op ∈ [.less, .greater, .lessOrEqual, .greaterOrEqual],
          apply op a b = .ok (.boolean false)) ∧
      (MeetAsScalars a b →
        (a.looseEq b = true ↔ a.compare? b = some .eq) ∧
          (apply .equal a b = .ok (.boolean true) ↔
            apply .lessOrEqual a b = .ok (.boolean true) ∧
              apply .greaterOrEqual a b = .ok (.boolean true))) := by
  refine ⟨compare?_swap a b, apply_less a b, apply_lessOrEqual a b, compare?_eq_none_iff,
    apply_of_unordered, ?_⟩
  intro h
  have hequal : a.looseEq b = true ↔ a.compare? b = some .eq := by
    rw [looseEq_eq_compare? h, beq_iff_eq]
  have happly : apply .equal a b = .ok (.boolean true) ↔ a.looseEq b = true := by
    show (Except.ok (Value.boolean (a.looseEq b)) : Except EvalError Value) = _ ↔ _
    rw [Except.ok.injEq, Value.boolean.injEq]
  exact ⟨hequal, happly.trans (hequal.trans compare?_eq_eq_iff_apply)⟩

/-- A truth value and an array around a text: they meet as numbers, and are equal. A text that
spells no number has no order to a number. -/
theorem comparisons_coherent_mixed :
    MeetAsScalars (.boolean true) (.array [.text " 1 "]) ∧
      looseEq (.boolean true) (.array [.text " 1 "]) = true ∧
      compare? (.text "one") (.number 1.0) = none ∧
      apply .lessOrEqual (.text "one") (.number 1.0) = .ok (.boolean false) := by
  have hmeet : MeetAsScalars (.boolean true) (.array [.text " 1 "]) :=
    ⟨by simp, by simp, by simp, by simp⟩
  have hequal : compare? (.boolean true) (.array [.text " 1 "]) = some .eq := by decide
  have hnone : compare? (.text "one") (.number 1.0) = none := by decide
  exact ⟨hmeet, ((comparisons_coherent _ _).2.2.2.2.2 hmeet).1.mpr hequal, hnone,
    (comparisons_coherent _ _).2.2.2.2.1 hnone _ (by simp)⟩

end operators

end Value

end RecordFormula
