import RecordFormula.Proofs.Value.Equality
import RecordFormula.Proofs.Value.NumberTexts

/-!
# Numbers and texts of values

Arithmetic takes the number of a value at once, a comparison with a number takes the number of the
text of an array or an object. Both are the same number, truth values apart.

* `IsWrappedTruth` — a truth value, alone or in arrays of one element.
* **The number of the text of a value is the number of the value**, unless it is a wrapped truth
  value (`agree_readNumber_toText_iff`).
* **Every operation with a number takes an array or an object as its number**
  (`number_of_text_of_value`).
-/

namespace RecordFormula

namespace Value

open Number

/-! ### Texts of arrays and objects -/

section texts

variable {v w : Value} {rest : List Value} {members : List (String × Value)} {b : Bool}

/-- An array of one element has the text of the element. -/
theorem toText_singleton (v : Value) : toText (.array [v]) = toText v := by
  rw [toText, toTexts, toTexts, String.intercalate_singleton]

/-- The text of an array of two or more elements has a comma in it, and so spells no number. -/
theorem isNaN_readNumber_array : isNaN (readNumber (toText (.array (v :: w :: rest)))) = true := by
  have hcomma : ',' ∈ (toText (.array (v :: w :: rest))).toList := by
    rw [toText, toTexts, toTexts, String.intercalate_cons_cons]
    simp
  exact isNaN_readNumber hcomma (by decide) (by decide) (by decide)

/-- The text of an object starts with a brace, and so spells no number. -/
theorem isNaN_readNumber_object : isNaN (readNumber (toText (.object members))) = true := by
  have hbrace : '\x7b' ∈ (toText (.object members)).toList := by
    rw [toText, toJson, Json.compact]
    simp
  exact isNaN_readNumber hbrace (by decide) (by decide) (by decide)

/-- The text of a truth value spells no number. -/
theorem isNaN_readNumber_boolean : isNaN (readNumber (toText (.boolean b))) = true := by
  cases b with
  | true => exact isNaN_readNumber (c := 'r') (by decide) (by decide) (by decide) (by decide)
  | false => exact isNaN_readNumber (c := 's') (by decide) (by decide) (by decide) (by decide)

end texts

/-! ### The number of the text -/

section coercion

variable {v : Value}

/-- A truth value, alone or in arrays of one element. -/
inductive IsWrappedTruth : Value → Prop where
  /-- A truth value. -/
  | boolean (b : Bool) : IsWrappedTruth (.boolean b)
  /-- An array of one element. -/
  | array {v : Value} (h : IsWrappedTruth v) : IsWrappedTruth (.array [v])

/-- An array of one element is as good as the element. -/
theorem isWrappedTruth_array_iff : IsWrappedTruth (.array [v]) ↔ IsWrappedTruth v := by
  constructor
  · rintro ⟨⟩
    assumption
  · exact .array

/-- A truth value has a number, but its text has none. -/
theorem not_agree_boolean (b : Bool) :
    ¬ Agree (toNumber (.boolean b)) (readNumber (toText (.boolean b))) := by
  rw [agree_iff_of_isNaN isNaN_readNumber_boolean]
  cases b <;> decide

/-- **The number of the text of a value is the number of the value**, unless the value is a truth
value, alone or in arrays of one element. -/
theorem agree_readNumber_toText_iff : ∀ v : Value,
    Agree (toNumber v) (readNumber (toText v)) ↔ ¬ IsWrappedTruth v
  | .null => iff_of_true (.inl rfl) (by rintro ⟨⟩)
  | .boolean b => iff_of_false (not_agree_boolean b) (not_not_intro (.boolean b))
  | .number x => iff_of_true (agree_readNumber_numberText x).symm (by rintro ⟨⟩)
  | .text s => iff_of_true (Agree.refl _) (by rintro ⟨⟩)
  | .array [] => iff_of_true (.inl rfl) (by rintro ⟨⟩)
  | .array [v] => by
    rw [toNumber, toText_singleton, isWrappedTruth_array_iff]
    exact agree_readNumber_toText_iff v
  | .array (v :: w :: rest) =>
    iff_of_true (.inr ⟨by rw [toNumber]; rfl, isNaN_readNumber_array⟩) (by rintro ⟨⟩)
  | .object members =>
    iff_of_true (.inr ⟨by rw [toNumber]; rfl, isNaN_readNumber_object⟩) (by rintro ⟨⟩)

end coercion

/-! ### Operations with a number -/

section operations

open Operator (apply)

variable {v : Value} {x : Float}

/-- The value is an array or an object. -/
def IsCompound (v : Value) : Prop := (∃ items, v = .array items) ∨ ∃ members, v = .object members

/-- An array or an object stands in an order as its text. -/
theorem IsCompound.collapse (h : IsCompound v) : v.collapse = .text v.toText := by
  rcases h with ⟨items, rfl⟩ | ⟨members, rfl⟩
  · rfl
  · rfl

/-- An array or an object is equal to a number if neither comes first. -/
theorem IsCompound.meetAsScalars (h : IsCompound v) (x : Float) :
    MeetAsScalars v (.number x) := by
  rcases h with ⟨items, rfl⟩ | ⟨members, rfl⟩
  · exact ⟨by simp, by simp, by simp, by simp⟩
  · exact ⟨by simp, by simp, by simp, by simp⟩

/-- A value has the order of its number to a number, if its text has the same number. -/
theorem compare?_number (h : IsCompound v) (htruth : ¬ IsWrappedTruth v) (x : Float) :
    v.compare? (.number x) = compare? (.number v.toNumber) (.number x) := by
  have hagree := (agree_readNumber_toText_iff v).mpr htruth
  have hnumber : ∀ w, ¬ BothTexts w (.number x) := by
    rintro w ⟨s, t, -, ht⟩
    cases ht
  rw [compare?_of_not_bothTexts (hnumber v), compare?_of_not_bothTexts (hnumber _), h.collapse]
  show order? (readNumber v.toText) x = order? v.toNumber x
  rw [order?_swap x, order?_swap x v.toNumber, hagree.order?_eq]

/-- So it is with equality. -/
theorem looseEq_number (h : IsCompound v) (htruth : ¬ IsWrappedTruth v) (x : Float) :
    v.looseEq (.number x) = looseEq (.number v.toNumber) (.number x) := by
  rw [looseEq_eq_compare? (h.meetAsScalars x), compare?_number h htruth, looseEq_eq_compare?]
  exact ⟨by simp, by simp, by simp, by simp⟩

/-- An operation sees nothing of its operands but their numbers, their order and whether they are
equal. -/
theorem apply_congr {a a' b b' : Value} (ha : a.toNumber = a'.toNumber)
    (hb : b.toNumber = b'.toNumber) (horder : a.compare? b = a'.compare? b')
    (hequal : a.looseEq b = a'.looseEq b') (op : Operator) : apply op a b = apply op a' b' := by
  cases op <;> simp only [apply, ha, hb, horder, hequal]

/-- **The text of a value has the number of the value**, unless the value is a truth value, alone or
in arrays of one element. So every operation with a number takes any other array or object as its
number, on both sides, whether it goes through the text or not. -/
theorem number_of_text_of_value (v : Value) :
    (Agree v.toNumber (toNumber (.text v.toText)) ↔ ¬ IsWrappedTruth v) ∧
      (IsCompound v → ¬ IsWrappedTruth v → ∀ (op : Operator) (x : Float),
        apply op v (.number x) = apply op (.number v.toNumber) (.number x) ∧
          apply op (.number x) v = apply op (.number x) (.number v.toNumber)) := by
  refine ⟨agree_readNumber_toText_iff v, ?_⟩
  intro h htruth op x
  have hself : v.toNumber = (Value.number v.toNumber).toNumber := rfl
  have horder := compare?_number h htruth x
  have hequal := looseEq_number h htruth x
  constructor
  · exact apply_congr hself rfl horder hequal op
  · refine apply_congr rfl hself ?_ ?_ op
    · rw [compare?_swap v, compare?_swap (.number v.toNumber), horder]
    · rw [looseEq_comm _ v, looseEq_comm _ (.number v.toNumber), hequal]

/-- An array in an array around a text: it is less than eight, and equal to seven. -/
theorem number_of_text_of_value_nested :
    IsCompound (.array [.array [.text " 7 "]]) ∧ ¬ IsWrappedTruth (.array [.array [.text " 7 "]]) ∧
      apply .less (.array [.array [.text " 7 "]]) (.number 8.0) = .ok (.boolean true) ∧
      apply .equal (.number 7.0) (.array [.array [.text " 7 "]]) = .ok (.boolean true) := by
  have hcompound : IsCompound (.array [.array [.text " 7 "]]) := .inl ⟨_, rfl⟩
  have htruth : ¬ IsWrappedTruth (.array [.array [.text " 7 "]]) := by
    rw [isWrappedTruth_array_iff, isWrappedTruth_array_iff]
    rintro ⟨⟩
  have hnumber : toNumber (.array [.array [.text " 7 "]]) = 7.0 := rfl
  have h := (number_of_text_of_value (.array [.array [.text " 7 "]])).2 hcompound htruth
  refine ⟨hcompound, htruth, ?_, ?_⟩
  · rw [(h .less 8.0).1, hnumber]
    rfl
  · rw [(h .equal 7.0).2, hnumber]
    simp only [apply, looseEq]
    rfl

end operations

end Value

end RecordFormula
