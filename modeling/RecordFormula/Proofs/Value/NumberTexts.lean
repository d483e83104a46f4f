import RecordFormula.Proofs.Decimal.Spelling
import RecordFormula.Proofs.Number.Order
import RecordFormula.Proofs.Syntax.Scanning
import RecordFormula.Proofs.Text.Trimming
import RecordFormula.Value.Conversion

/-!
# The number of a text

Which texts spell no number, and that the text of a number spells the number.

* `Decimal.isSpelling` — the characters that spelled numbers are made of.
* **A text that is read as a number has that number** (`readNumber_of_read?_trim`), **and any other
  one has none** (`isNaN_readNumber_of_none`), such as one with a character that stands in no spelling
  (`isNaN_readNumber`).
* **The text of a number is read as the number** (`agree_readNumber_numberText`), up to the sign of
  zero.
-/

namespace RecordFormula

/-! ### Spelled numbers -/

namespace Decimal

variable {c : Char} {cs : List Char} {x : Float}

/-- May the character stand in a spelled number? Digits, signs, points and the marks of an exponent
may. -/
def isSpelling (c : Char) : Bool := isDigit c || ['+', '-', '.', 'e', 'E'].contains c

/-- A digit may. -/
theorem isSpelling_of_isDigit (h : isDigit c = true) : isSpelling c = true := by
  rw [isSpelling, h, Bool.true_or]

/-- None of them is blank, and of the letters there are only the marks of an exponent. -/
theorem of_isSpelling (h : isSpelling c = true) :
    isBlank c = false ∧ (Value.isBasicLetter c && c != 'e' && c != 'E') = false := by
  rw [isSpelling, Bool.or_eq_true, List.contains_iff_mem] at h
  rcases h with h | h
  · have hletter : Value.isBasicLetter c = false := by
      simp only [isDigit, Bool.and_eq_true, decide_eq_true_eq, Char.le_def,
        UInt32.le_iff_toNat_le] at h
      simp only [Value.isBasicLetter, Bool.or_eq_false_iff, Bool.and_eq_false_iff,
        decide_eq_false_iff_not, Char.le_def, UInt32.le_iff_toNat_le]
      simp at h ⊢
      omega
    rw [hletter]
    exact ⟨(Token.not_isBlank_of_isDigit h).1, rfl⟩
  · fin_cases h <;> decide

/-- What does not stand in a run of digits comes after it. -/
theorem of_mem_digits (hc : c ∈ cs) : c ∈ cs.dropWhile isDigit ∨ isSpelling c = true := by
  rw [← List.takeWhile_append_dropWhile (p := isDigit) (l := cs)] at hc
  rcases List.mem_append.mp hc with hc | hc
  · exact .inr (isSpelling_of_isDigit (List.mem_takeWhile_imp hc))
  · exact .inl hc

/-- What comes after a sign is a part of the whole. -/
theorem mem_of_mem_splitSign (hc : c ∈ (splitSign cs).2) : c ∈ cs := by
  unfold splitSign at hc
  split at hc
  · exact List.mem_cons_of_mem _ hc
  · exact List.mem_cons_of_mem _ hc
  · exact hc

/-- What is not the sign of a spelling comes after it. -/
theorem of_mem_splitSign (hc : c ∈ cs) : c ∈ (splitSign cs).2 ∨ isSpelling c = true := by
  unfold splitSign
  split
  · rcases List.mem_cons.mp hc with rfl | hc
    · exact .inr rfl
    · exact .inl hc
  · rcases List.mem_cons.mp hc with rfl | hc
    · exact .inr rfl
    · exact .inl hc
  · exact .inl hc

/-- What does not stand in the fraction of a spelling comes after it. -/
theorem of_mem_splitFraction (hc : c ∈ cs) : c ∈ (splitFraction cs).2 ∨ isSpelling c = true := by
  unfold splitFraction
  split
  · rcases List.mem_cons.mp hc with rfl | hc
    · exact .inr rfl
    · exact of_mem_digits hc
  · exact .inl hc

/-- An exponent is spelled with its mark, a sign and digits. -/
theorem isSpelling_of_exponent? {e : Int} (h : exponent? cs = some e) (hc : c ∈ cs) :
    isSpelling c = true := by
  cases cs with
  | nil => cases hc
  | cons d cs =>
    have hmark := mark_of_exponent? h
    simp only [exponent?] at h
    have hdigits : (!(splitSign cs).2.isEmpty && (splitSign cs).2.all isDigit) = true := by
      by_contra hno
      rw [if_pos hmark, if_neg hno] at h
      cases h
    rcases List.mem_cons.mp hc with rfl | hc
    · rcases hmark with rfl | rfl <;> rfl
    · rcases of_mem_splitSign hc with hc | hc
      · rw [Bool.and_eq_true, List.all_eq_true] at hdigits
        exact isSpelling_of_isDigit (hdigits.2 c hc)
      · exact hc

/-- **A spelled number holds no other characters.** -/
theorem isSpelling_of_read? (h : read? cs = some x) (hc : c ∈ cs) : isSpelling c = true := by
  obtain ⟨spelling, hspelling, -⟩ := Option.map_eq_some_iff.mp h
  simp only [spelling?] at hspelling
  split_ifs at hspelling
  obtain ⟨e, he, -⟩ := Option.map_eq_some_iff.mp hspelling
  -- sign, digits, fraction, exponent
  rcases of_mem_splitSign hc with hc | hc
  · rcases of_mem_digits hc with hc | hc
    · rcases of_mem_splitFraction hc with hc | hc
      · exact isSpelling_of_exponent? he hc
      · exact hc
    · exact hc
  · exact hc

/-- A character with the lowercase form `n` is a letter that stands in no spelled number. -/
theorem letter_of_toLower (h : c.toLower = 'n') :
    (Value.isBasicLetter c && c != 'e' && c != 'E') = true := by
  unfold Char.toLower at h
  split_ifs at h with hupper
  · have hc : c = 'N' := by
      have hval : c.val + 32 = 110 := congrArg Char.val h
      exact Char.ext ((UInt32.add_left_inj 32).mp hval)
    rw [hc]
    rfl
  · rw [h]
    rfl

/-- **Names are spelled with other letters.** -/
theorem word?_eq_none (h : ∀ c ∈ cs, (Value.isBasicLetter c && c != 'e' && c != 'E') = false) :
    word? cs = none := by
  have hlookup : words.lookup (String.ofList ((splitSign cs).2.map Char.toLower)) = none := by
    refine List.lookup_eq_none_iff.mpr fun p hp => bne_iff_ne.mpr fun hname => ?_
    -- every name has the letter `n`
    have hn : 'n' ∈ p.1.toList := (by decide : ∀ p ∈ words, 'n' ∈ p.1.toList) p hp
    rw [← hname, String.toList_ofList] at hn
    obtain ⟨c, hc, hlower⟩ := List.mem_map.mp hn
    have hletter := h c (mem_of_mem_splitSign hc)
    rw [letter_of_toLower hlower] at hletter
    cases hletter
  simp only [word?, hlookup, Option.map_none]

/-- A text without such letters is a number or nothing. -/
theorem parse?_eq_read? (h : ∀ c ∈ cs, (Value.isBasicLetter c && c != 'e' && c != 'E') = false) :
    parse? cs = read? cs := by
  rw [parse?, word?_eq_none h, Option.or_none]

end Decimal

namespace Value

open Number

variable {c : Char} {s : String} {x : Float}

/-- A text that is the spelling of a number between blanks is read as the number. -/
theorem readNumber_of_read?_trim (h : Decimal.read? (Text.trim s).toList = some x) :
    readNumber s = x := by
  have hspelling : ∀ c ∈ (Text.trim s).toList, Decimal.isSpelling c = true := fun c hc =>
    Decimal.isSpelling_of_read? h hc
  have hempty : (Text.trim s).isEmpty = false := by
    rw [Bool.eq_false_iff, ne_eq, String.isEmpty_iff]
    intro hs
    rw [hs] at h
    cases h
  have hinfinity : ∀ t : String, 'I' ∈ t.toList → Text.trim s ≠ t := by
    intro t ht hs
    rw [hs] at hspelling
    cases hspelling 'I' ht
  have hletter : ((Text.trim s).toList.any fun c => isBasicLetter c && c != 'e' && c != 'E') =
      false := by
    rw [List.any_eq_false]
    intro c hc
    rw [(Decimal.of_isSpelling (hspelling c hc)).2]
    simp
  have hparse : Decimal.parse? (Text.trim s).toList = some x := by
    rw [Decimal.parse?, h, Option.some_or]
  simp [readNumber, hempty, hletter, hparse, hinfinity "Infinity" (by decide),
    hinfinity "+Infinity" (by decide), hinfinity "-Infinity" (by decide)]

/-- A text that is the spelling of a number is read as the number. -/
theorem readNumber_of_read? (h : Decimal.read? s.toList = some x) : readNumber s = x := by
  have htrim : Text.trim s = s := Text.trim_eq_self fun c hc =>
    (Decimal.of_isSpelling (Decimal.isSpelling_of_read? h hc)).1
  exact readNumber_of_read?_trim (by rwa [htrim])

/-- **Any other text but the named ones spells no number.** -/
theorem isNaN_readNumber_of_none (hempty : Text.trim s ≠ "")
    (hplus : ¬(Text.trim s = "Infinity" ∨ Text.trim s = "+Infinity"))
    (hminus : Text.trim s ≠ "-Infinity") (h : Decimal.read? (Text.trim s).toList = none) :
    isNaN (readNumber s) = true := by
  have hempty' : (Text.trim s).isEmpty = false := by simpa [String.isEmpty_iff] using hempty
  simp only [readNumber, hempty', if_neg hplus, if_neg hminus, Bool.false_eq_true, if_false]
  split_ifs with hletter
  · rfl
  · rw [Bool.not_eq_true, List.any_eq_false] at hletter
    rw [Decimal.parse?_eq_read? fun c hc => Bool.eq_false_iff.mpr (hletter c hc), h]
    rfl

/-- **A text with a character that stands in no spelling spells no number.** -/
theorem isNaN_readNumber (hc : c ∈ s.toList) (hblank : isBlank c = false)
    (hspelling : Decimal.isSpelling c = false) (hinfinity : c ∉ "Infinity".toList) :
    isNaN (readNumber s) = true := by
  have hmem := Text.mem_trim hc hblank
  have hempty : Text.trim s ≠ "" := by
    intro h
    rw [h] at hmem
    cases hmem
  have hplus : ¬(Text.trim s = "Infinity" ∨ Text.trim s = "+Infinity") := by
    rintro (h | h) <;> rw [h] at hmem
    · exact hinfinity hmem
    · rcases List.mem_cons.mp hmem with rfl | hmem
      · cases hspelling
      · exact hinfinity hmem
  have hminus : Text.trim s ≠ "-Infinity" := by
    intro h
    rw [h] at hmem
    rcases List.mem_cons.mp hmem with rfl | hmem
    · cases hspelling
    · exact hinfinity hmem
  refine isNaN_readNumber_of_none hempty hplus hminus ?_
  cases hread : Decimal.read? (Text.trim s).toList with
  | none => rfl
  | some y =>
    rw [Decimal.isSpelling_of_read? hread hmem] at hspelling
    cases hspelling

/-- **The text of a number is read as the number**, up to the sign of zero. -/
theorem agree_readNumber_numberText (x : Float) : Agree (readNumber (numberText x)) x := by
  unfold numberText
  split_ifs with hnan hinfinite hneg hzero
  · exact .inr ⟨isNaN_readNumber (c := 'N') (by decide) (by decide) (by decide) (by decide), hnan⟩
  · have hread : readNumber "-Infinity" = -infinity := rfl
    have heq := beq_of_infinite (Bool.eq_false_iff.mpr hnan) (by simpa using hinfinite)
    rw [if_pos hneg] at heq
    rw [hread]
    exact .inl heq
  · have hread : readNumber "Infinity" = infinity := rfl
    have heq := beq_of_infinite (Bool.eq_false_iff.mpr hnan) (by simpa using hinfinite)
    rw [if_neg hneg] at heq
    rw [hread]
    exact .inl heq
  · have hread : readNumber "0" = 0.0 := rfl
    rw [hread, Agree, beq_comm]
    exact .inl hzero
  · have hfin : isFinite x = true := by simpa using hinfinite
    have hread : Decimal.read? (Decimal.plain x).toList = some x :=
      Decimal.read?_write Decimal.plainStyle hfin
    rw [readNumber_of_read? hread]
    exact Agree.refl x

end Value

end RecordFormula
