import Mathlib
import RecordFormula.Expr.Basic
import RecordFormula.Token.Scan

/-!
# Scanning what has been spelled

Each token is read off the front of a text, so a text that consists of spelled tokens is read token
by token. `Spells cs ks rest` says that the characters `cs`, where `rest` follows them, are read as
tokens of the kinds `ks`; spelled texts follow one another (`Spells.append`).

* **Signs and parentheses** (`spells_openParen`, `spells_operator`).
* **Quoted texts and fields**, which say themselves where they end (`spells_quote`,
  `spells_field`).
* **Numbers and words**, which end where something follows that cannot continue them
  (`spells_number`, `spells_word`, `spells_function`).
-/

namespace RecordFormula

namespace Token

/-- The characters are read as tokens of the kinds, where the rest follows. -/
def Spells (cs : List Char) (ks : List Kind) (rest : List Char) : Prop :=
  ∀ position, ∃ ts position', ts.map Token.kind = ks ∧
    scanFrom position (cs ++ rest) = (scanFrom position' rest).map (ts ++ ·)

/-- What follows continues neither a number nor a word and makes no function of one. -/
structure Delimited (rest : List Char) : Prop where
  /-- It continues no word. -/
  word : ∀ c ∈ rest.head?, isWordPart c = false
  /-- It continues no number. -/
  number : ∀ c ∈ rest.head?, isNumberPart c = false
  /-- Blanks aside, it opens no parenthesis. -/
  callee : ∀ cs, Text.trimStart rest ≠ '(' :: cs

section composing

variable {cs cs' rest : List Char} {ks ks' : List Kind} {c : Char} {kind : Kind}

/-- Nothing is read as no tokens. -/
theorem Spells.nil (rest : List Char) : Spells [] [] rest := by
  intro position
  refine ⟨[], position, rfl, ?_⟩
  rw [List.nil_append]
  cases scanFrom position rest <;> rfl

/-- Spelled texts follow one another. -/
theorem Spells.append (h : Spells cs ks (cs' ++ rest)) (h' : Spells cs' ks' rest) :
    Spells (cs ++ cs') (ks ++ ks') rest := by
  intro position
  obtain ⟨ts, p, rfl, hs⟩ := h position
  obtain ⟨ts', p', rfl, hs'⟩ := h' p
  refine ⟨ts ++ ts', p', List.map_append, ?_⟩
  rw [List.append_assoc, hs, hs']
  cases scanFrom p' rest <;> simp [Except.map]

/-- Blanks belong to no token. -/
theorem spells_blank (hb : isBlank c = true) : Spells [c] [] rest := by
  intro position
  refine ⟨[], position + 1, rfl, ?_⟩
  rw [List.singleton_append, scanFrom, if_pos hb]
  cases scanFrom (position + 1) rest <;> rfl

/-- A token is read off the front. -/
theorem spells_lexeme (hb : isBlank c = false)
    (h : ∀ position, lexeme c (cs ++ rest) position = .ok (kind, cs.length)) :
    Spells (c :: cs) [kind] rest := by
  intro position
  refine ⟨[⟨kind, position⟩], position + 1 + cs.length, rfl, ?_⟩
  rw [List.cons_append, scanFrom, if_neg (by simp [hb]), h position]
  simp

end composing

/-! ### Signs -/

section signs

variable {rest : List Char} {c : Char}

/-- An opening parenthesis. -/
theorem spells_openParen : Spells ['('] [.openParen] rest := spells_lexeme rfl fun _ => rfl

/-- A closing parenthesis. -/
theorem spells_closeParen : Spells [')'] [.closeParen] rest := spells_lexeme rfl fun _ => rfl

/-- A comma. -/
theorem spells_comma : Spells [','] [.comma] rest := spells_lexeme rfl fun _ => rfl

/-- An operator starts with its sign. -/
theorem lexeme_of_sign (rest : List Char) (hc : c ∈ ['+', '-', '*', '/', '>', '<', '=', '!']) :
    isBlank c = false ∧ ∀ position, lexeme c rest position = .ok (operatorAt c rest) := by
  simp only [List.mem_cons, List.not_mem_nil, or_false] at hc
  rcases hc with rfl | rfl | rfl | rfl | rfl | rfl | rfl | rfl <;> exact ⟨rfl, fun _ => rfl⟩

/-- A sign of one character, where no equals sign follows it. -/
theorem spells_sign (hc : c ∈ ['+', '-', '*', '/', '>', '<', '=', '!'])
    (hr : ∀ cs, rest ≠ '=' :: cs) : Spells [c] [.operator (String.singleton c)] rest := by
  refine spells_lexeme (lexeme_of_sign rest hc).1 fun position => ?_
  rw [List.nil_append, (lexeme_of_sign _ hc).2]
  unfold operatorAt
  split
  · next cs => exact absurd rfl (hr cs)
  · rfl

/-- A sign of two characters, the second of which is an equals sign. -/
theorem spells_signEqual (hc : c ∈ ['+', '-', '*', '/', '>', '<', '=', '!']) :
    Spells [c, '='] [.operator (String.ofList [c, '='])] rest := by
  refine spells_lexeme (lexeme_of_sign rest hc).1 fun position => ?_
  rw [(lexeme_of_sign _ hc).2]
  rfl

/-- The sign of an operator between two operands. -/
theorem spells_operator (op : Operator) (hr : ∀ cs, rest ≠ '=' :: cs) :
    Spells op.symbol.toList [.operator op.symbol] rest := by
  cases op with
  | add => exact spells_sign (c := '+') (by decide) hr
  | subtract => exact spells_sign (c := '-') (by decide) hr
  | multiply => exact spells_sign (c := '*') (by decide) hr
  | divide => exact spells_sign (c := '/') (by decide) hr
  | greater => exact spells_sign (c := '>') (by decide) hr
  | less => exact spells_sign (c := '<') (by decide) hr
  | greaterOrEqual => exact spells_signEqual (c := '>') (by decide)
  | lessOrEqual => exact spells_signEqual (c := '<') (by decide)
  | equal => exact spells_signEqual (c := '=') (by decide)
  | notEqual => exact spells_signEqual (c := '!') (by decide)

/-- The sign of an operator in front of its operand. -/
theorem spells_prefixOperator (op : PrefixOperator) (hr : ∀ cs, rest ≠ '=' :: cs) :
    Spells op.symbol.toList [.operator op.symbol] rest := by
  cases op with
  | plus => exact spells_sign (c := '+') (by decide) hr
  | minus => exact spells_sign (c := '-') (by decide) hr
  | not => exact spells_sign (c := '!') (by decide) hr

end signs

/-! ### Texts and fields -/

section quoted

variable {rest : List Char}

/-- What has been escaped is read as it was. -/
theorem quoted?_escape (cs rest : List Char) :
    quoted? '"' (cs.flatMap Expr.escape ++ '"' :: rest) =
      some (cs, (cs.flatMap Expr.escape).length + 1) := by
  induction cs with
  | nil => simp [quoted?]
  | cons c cs ih =>
    rw [List.flatMap_cons, List.append_assoc]
    by_cases hc : c = '"' ∨ c = '\\'
    · have he : Expr.escape c = ['\\', c] := if_pos hc
      rw [he]
      simp only [List.cons_append, List.nil_append, quoted?, ih, Option.map_some, List.length_cons]
    · have he : Expr.escape c = [c] := if_neg hc
      rw [not_or] at hc
      rw [he, List.singleton_append, quoted?, if_neg hc.1, ih]
      · rfl
      · exact fun _ _ h _ => hc.2 h
      · exact fun h _ => hc.2 h

/-- A text in quotation marks. -/
theorem spells_quote (s : String) : Spells (Expr.quote s).toList [.text s] rest := by
  have hq : (Expr.quote s).toList = '"' :: (s.toList.flatMap Expr.escape ++ ['"']) := by
    simp [Expr.quote]
  rw [hq]
  refine spells_lexeme rfl fun position => ?_
  have htext : ∀ cs, lexeme '"' cs position = textAt '"' cs position := fun _ => rfl
  rw [htext, textAt, List.append_assoc, List.singleton_append, quoted?_escape]
  simp

/-- A field name in brackets. -/
theorem spells_field {name : String} (hname : ']' ∉ name.toList) :
    Spells ("[" ++ name ++ "]").toList [.field name] rest := by
  have hq : ("[" ++ name ++ "]").toList = '[' :: (name.toList ++ [']']) := by simp
  rw [hq]
  refine spells_lexeme rfl fun position => ?_
  have hfield : ∀ cs, lexeme '[' cs position = fieldAt cs position := fun _ => rfl
  have htake : (name.toList ++ ']' :: rest).takeWhile (· != ']') = name.toList := by
    rw [List.takeWhile_append_of_pos]
    · simp
    · intro c hc
      simp only [bne_iff_ne, ne_eq]
      rintro rfl
      exact hname hc
  rw [hfield, fieldAt, List.append_assoc, List.singleton_append, htake]
  simp

end quoted

/-! ### Numbers and words -/

section runs

variable {c : Char} {cs rest whole fraction : List Char} {x : Float}

/-- A run of characters ends where a character follows that is not one of them. -/
theorem takeWhile_append_of_head {p : Char → Bool} (hcs : ∀ c ∈ cs, p c = true)
    (hr : ∀ c ∈ rest.head?, p c = false) : (cs ++ rest).takeWhile p = cs := by
  rw [List.takeWhile_append_of_pos hcs]
  cases rest with
  | nil => simp
  | cons c rest => simp [hr c (by simp)]

/-- What follows a run of characters, where a character follows that is not one of them. -/
theorem dropWhile_append_of_head {p : Char → Bool} (hcs : ∀ c ∈ cs, p c = true)
    (hr : ∀ c ∈ rest.head?, p c = false) : (cs ++ rest).dropWhile p = rest := by
  rw [List.dropWhile_append_of_pos hcs]
  cases rest with
  | nil => simp
  | cons c rest => simp [hr c (by simp)]

/-- The characters that open a token which is neither a number nor a word. -/
def marks : List Char := ['(', ')', ',', '+', '-', '*', '/', '>', '<', '=', '!', '"', '\'', '[']

/-- A token that no mark opens is a number or a word. -/
theorem lexeme_of_not_mem_marks (hc : c ∉ marks) (position : Nat) :
    lexeme c rest position =
      if Decimal.isDigit c then numberAt c rest position
      else if isWordStart c then .ok (wordAt c rest)
      else .error (.unexpectedCharacter c position) := by
  simp only [marks, List.mem_cons, List.not_mem_nil, or_false, not_or] at hc
  have hop : isOperatorStart c = false := by
    have hlist : "+-*/><=!".toList = ['+', '-', '*', '/', '>', '<', '=', '!'] := rfl
    simp [isOperatorStart, hlist, hc]
  simp [lexeme, hc, hop]

/-- A printed character of the basic alphabet is not blank. -/
theorem isBlank_of_printed (h : 33 ≤ c.toNat ∧ c.toNat ≤ 126) : isBlank c = false := by
  simp [isBlank]
  omega

/-- A digit is neither blank nor a mark. -/
theorem not_isBlank_of_isDigit (h : Decimal.isDigit c = true) :
    isBlank c = false ∧ c ∉ marks := by
  have hmarks : ∀ m ∈ marks, ¬ Decimal.isDigit m = true := List.any_eq_false.mp rfl
  refine ⟨isBlank_of_printed ?_, fun hm => hmarks c hm h⟩
  simp only [Decimal.isDigit, Bool.and_eq_true, decide_eq_true_eq, Char.le_def,
    UInt32.le_iff_toNat_le] at h
  exact ⟨Nat.le_trans (by decide) h.1, Nat.le_trans h.2 (by decide)⟩

/-- The start of a word is neither blank nor a mark nor a digit. -/
theorem not_isBlank_of_isWordStart (h : isWordStart c = true) :
    isBlank c = false ∧ c ∉ marks ∧ Decimal.isDigit c = false := by
  have hmarks : ∀ m ∈ marks, ¬ isWordStart m = true := List.any_eq_false.mp rfl
  have hrange : (65 ≤ c.toNat ∧ c.toNat ≤ 90) ∨ (97 ≤ c.toNat ∧ c.toNat ≤ 122) ∨ c.toNat = 95 := by
    simp only [isWordStart, Char.isAlpha, Char.isUpper, Char.isLower, Bool.or_eq_true,
      Bool.and_eq_true, decide_eq_true_eq, beq_iff_eq, ge_iff_le, UInt32.le_iff_toNat_le] at h
    rcases h with (h | h) | rfl
    · exact .inl h
    · exact .inr (.inl h)
    · exact .inr (.inr rfl)
  refine ⟨isBlank_of_printed (by omega), fun hm => hmarks c hm h, ?_⟩
  rw [Bool.eq_false_iff]
  intro hd
  simp only [Decimal.isDigit, Bool.and_eq_true, decide_eq_true_eq, Char.le_def,
    UInt32.le_iff_toNat_le] at hd
  have hlow : 48 ≤ c.toNat := hd.1
  have hhigh : c.toNat ≤ 57 := hd.2
  omega

/-- A number, where something follows that does not continue it. -/
theorem spells_number {x : Float} {cs : List Char} (hd : Decimal.isDigit c = true)
    (hcs : ∀ c ∈ cs, isNumberPart c = true) (hread : Decimal.read? (c :: cs) = some x)
    (hr : Delimited rest) : Spells (c :: cs) [.number x] rest := by
  obtain ⟨hb, hm⟩ := not_isBlank_of_isDigit hd
  refine spells_lexeme hb fun position => ?_
  rw [lexeme_of_not_mem_marks hm, if_pos hd, numberAt, takeWhile_append_of_head hcs hr.number]
  simp only [hread]

/-- A word, where something follows that neither continues it nor makes a function of it. -/
theorem spells_word (hc : isWordStart c = true) (hcs : ∀ c ∈ cs, isWordPart c = true)
    (hr : Delimited rest) : Spells (c :: cs) [.word (String.ofList (c :: cs))] rest := by
  obtain ⟨hb, hm, hd⟩ := not_isBlank_of_isWordStart hc
  refine spells_lexeme hb fun position => ?_
  rw [lexeme_of_not_mem_marks hm, if_neg (by simp [hd]), if_pos hc, wordAt,
    takeWhile_append_of_head hcs hr.word, dropWhile_append_of_head hcs hr.word]
  split
  · next cs' h => exact absurd h (hr.callee cs')
  · rfl

/-- A word in front of an opening parenthesis. -/
theorem spells_function (hc : isWordStart c = true) (hcs : ∀ c ∈ cs, isWordPart c = true) :
    Spells (c :: cs) [.function (String.ofList (c :: cs))] ('(' :: rest) := by
  obtain ⟨hb, hm, hd⟩ := not_isBlank_of_isWordStart hc
  have hr : ∀ c ∈ ('(' :: rest).head?, isWordPart c = false := by
    simp only [List.head?_cons, Option.mem_def, Option.some.injEq]
    rintro _ rfl
    rfl
  refine spells_lexeme hb fun position => ?_
  rw [lexeme_of_not_mem_marks hm, if_neg (by simp [hd]), if_pos hc, wordAt,
    takeWhile_append_of_head hcs hr, dropWhile_append_of_head hcs hr]
  rfl

end runs

end Token

end RecordFormula
