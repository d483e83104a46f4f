import RecordFormula.Function.Texts
import RecordFormula.Proofs.Number.Sum

/-!
# Parts of a text

A text is cut behind its first characters, however many they are said to be: a negative number of
characters is none of them, and one that is too large is all of them.

* `Texts.count_of_isWhole` — the number of characters that an integer stands for.
* **What `LEFT` takes, `MID` leaves** (`Texts.join_left_middle`), **and what `LEFT` leaves, `RIGHT`
  takes** (`Texts.join_left_right`).
* **`MID` with a length is `LEFT` of `MID` without it** (`Texts.middle_eq_left`).
* All of this together is `Texts.parts_of_text`.
-/

namespace RecordFormula

namespace Texts

open Number (IsWhole)

variable {x y l : Float} {n m : Int} {v : Value}

/-! ### Numbers of characters -/

/-- An integer stands for as many characters, a negative one for none. -/
theorem count_of_isWhole (h : IsWhole x n) (hn : n < 2 ^ 64) : count x = n.toNat := by
  have hnan : Number.isNaN x = false := Number.isNaN_of_isFinite h.isFinite
  have hclamp : Number.clampToInt 0 18446744073709551615 x =
      max 0 (min 18446744073709551615 n) := by
    simp [Number.clampToInt, hnan, h.isFinite, h.truncate_eq]
  rw [count, hclamp]
  omega

/-- The length of a text that is not too long. -/
theorem isWhole_length (v : Value) (h : v.toText.toList.length < 2 ^ 53) :
    ∃ l, length [v] = .number l ∧ IsWhole l v.toText.toList.length :=
  ⟨_, rfl, Number.isWhole_ofNat h⟩

/-- One is an integer. -/
theorem isWhole_one : IsWhole 1.0 1 := by
  have hone : (1.0 : Float) = Float.ofNat 1 := rfl
  rw [hone]
  exact Number.isWhole_ofNat (by norm_num)

/-! ### Both parts of a text -/

/-- Two texts are joined by writing the second behind the first. -/
theorem join_pair (s t : String) : join [.text s, .text t] = .text (s ++ t) := by
  have hjoin : join [.text s, .text t] = .text (s ++ (t ++ "")) := rfl
  rw [hjoin, String.append_empty]

/-- The characters before a place and the ones from there on make up the text. -/
theorem join_take_drop (s : String) {i j : Nat} (h : s.toList.drop i = s.toList.drop j) :
    join [.text (String.ofList (s.toList.take i)), .text (String.ofList (s.toList.drop j))] =
      .text s := by
  rw [join_pair, ← String.ofList_append, ← h, List.take_append_drop, String.ofList_toList]

/-- **What `LEFT` takes, `MID` leaves**: it starts with the character after. -/
theorem join_left_middle (v : Value) (hx : IsWhole x n) (hy : IsWhole y (n + 1))
    (hn : n + 1 < 2 ^ 64) :
    join [left [v, .number x], middle [v, .number y]] = .text v.toText := by
  have hleft : left [v, .number x] =
      .text (String.ofList (v.toText.toList.take n.toNat)) := by
    rw [← count_of_isWhole hx (by omega)]
    rfl
  have hmiddle : middle [v, .number y] =
      .text (String.ofList (v.toText.toList.drop ((n + 1).toNat - 1))) := by
    rw [← count_of_isWhole hy hn]
    rfl
  rw [hleft, hmiddle]
  refine join_take_drop _ ?_
  congr 1
  omega

/-- **What `LEFT` leaves, `RIGHT` takes**, if both numbers make up the length. -/
theorem join_left_right (v : Value) (hy : IsWhole y m) (hx : IsWhole x n) (hm : m < 2 ^ 64)
    (hn : n < 2 ^ 64) (hlength : m + n = v.toText.toList.length) :
    join [left [v, .number y], right [v, .number x]] = .text v.toText := by
  have hleft : left [v, .number y] =
      .text (String.ofList (v.toText.toList.take m.toNat)) := by
    rw [← count_of_isWhole hy hm]
    rfl
  have hright : right [v, .number x] =
      .text (String.ofList (v.toText.toList.drop (v.toText.toList.length - n.toNat))) := by
    rw [← count_of_isWhole hx hn]
    rfl
  rw [hleft, hright]
  refine join_take_drop _ ?_
  by_cases hneg : n < 0
  · -- `LEFT` takes more than there is, and `RIGHT` nothing
    rw [List.drop_eq_nil_of_le (by omega), List.drop_eq_nil_of_le (by omega)]
  · congr 1
    omega

/-- **`MID` with a length is `LEFT` of `MID` without it.** -/
theorem middle_eq_left (v start : Value) {k : Value} (hk : k.isNull = false) :
    middle [v, start, k] = left [middle [v, start], k] := by
  have hleft : Arguments.number? [middle [v, start], k] 1 = some k.toNumber := by
    simp [Arguments.number?, Arguments.number, Arguments.value, hk]
  have hmiddle : Arguments.number? [v, start, k] 2 = some k.toNumber := by
    simp [Arguments.number?, Arguments.number, Arguments.value, hk]
  have htext : Arguments.text [middle [v, start], k] 0 = String.ofList
      (v.toText.toList.drop (count start.toNumber - 1)) := rfl
  have hstart : middle [v, start, k] = .text (String.ofList
      ((v.toText.toList.drop (count start.toNumber - 1)).take (count k.toNumber))) := by
    unfold middle
    rw [hmiddle]
    rfl
  rw [hstart, left, hleft, htext, String.toList_ofList]
  rfl

/-! ### All together -/

/-- **`LEFT`, `MID` and `RIGHT` cut a text into parts.**

For every integer, negative or beyond the end of the text: `LEFT` with it and `MID` from the next one
on make up the text; so do `LEFT` with what is left of the length, and `RIGHT`. The sum and the
difference are those of floats, which are exact for such integers. `MID` with any length that is not
null, a whole number or not, is `LEFT` of `MID` without a length. -/
theorem parts_of_text (v : Value) :
    (∀ x n, IsWhole x n → n.natAbs < 2 ^ 52 →
      join [left [v, .number x], middle [v, .number (x + 1.0)]] = .text v.toText ∧
      (v.toText.toList.length < 2 ^ 52 → ∃ l, length [v] = .number l ∧
        join [left [v, .number (l - x)], right [v, .number x]] = .text v.toText)) ∧
    ∀ start k : Value, k.isNull = false →
      middle [v, start, k] = left [middle [v, start], k] := by
  refine ⟨?_, fun start k => middle_eq_left v start⟩
  intro x n hx hn
  constructor
  · exact join_left_middle v hx (hx.add isWhole_one (by omega)) (by omega)
  · intro hlength
    obtain ⟨l, hl, hwhole⟩ := isWhole_length v (by omega)
    refine ⟨l, hl, ?_⟩
    exact join_left_right v (hwhole.sub hx (by omega)) hx (by omega) (by omega) (by omega)

/-- The parts of a text of three characters, cut beyond its end and before its start, and its middle
of half a character. -/
theorem parts_of_text_short :
    join [left [.text "añ漢", .number 5.0],
        middle [.text "añ漢", .number (5.0 + 1.0)]] = .text "añ漢" ∧
      (∃ l, length [.text "añ漢"] = .number l ∧
        join [left [.text "añ漢", .number (l - 5.0)],
          right [.text "añ漢", .number 5.0]] = .text "añ漢") ∧
      middle [.text "añ漢", .number (-1.0), .number 0.5] =
        left [middle [.text "añ漢", .number (-1.0)], .number 0.5] := by
  have hfive : IsWhole (Float.ofNat 5) 5 := Number.isWhole_ofNat (by norm_num)
  obtain ⟨hparts, hmiddle⟩ := parts_of_text (.text "añ漢")
  obtain ⟨hleft, hright⟩ := hparts 5.0 5 hfive (by norm_num)
  exact ⟨hleft, hright (by decide), hmiddle _ _ rfl⟩

end Texts

end RecordFormula
