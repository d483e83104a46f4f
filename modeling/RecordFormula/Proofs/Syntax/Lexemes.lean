import RecordFormula.Proofs.Syntax.Scanning

/-!
# The spelling of a token

How each kind of token is spelled, as a relation between characters and kinds that knows nothing of
the scanner, and what may follow the spelling.

* `Token.Quoted` — what stands between quotation marks, and the text that it means.
* `Token.Lexeme` — the characters are the spelling of a token of the kind.
* `Token.Bounded` — the characters behind a spelling do not continue it.
* **A number is a run of digits and points with one point at most** (`isSome_read?_iff`).
* **The scanner reads a spelling that is bounded, and nothing else** (`lexeme_eq_ok_iff`).
-/

namespace RecordFormula

namespace Token

/-! ### Spellings -/

/-- What stands between quotation marks, and the text that it means: a backslash is dropped, and the
character behind it is kept whatever it is. -/
inductive Quoted (mark : Char) : List Char → List Char → Prop
  /-- Nothing. -/
  | nil : Quoted mark [] []
  /-- A backslash and the character that it stands for. -/
  | escaped (c : Char) {body s : List Char} (h : Quoted mark body s) :
    Quoted mark ('\\' :: c :: body) (c :: s)
  /-- A character that stands for itself. -/
  | plain {c : Char} {body s : List Char} (hmark : c ≠ mark) (hslash : c ≠ '\\')
    (h : Quoted mark body s) : Quoted mark (c :: body) (c :: s)

/-- The characters are the spelling of a token. Operators, words and field names mean what they
spell. -/
inductive Lexeme : List Char → Kind → Prop
  /-- An opening parenthesis. -/
  | openParen : Lexeme ['('] .openParen
  /-- A closing parenthesis. -/
  | closeParen : Lexeme [')'] .closeParen
  /-- A comma. -/
  | comma : Lexeme [','] .comma
  /-- A sign. -/
  | sign {c : Char} (hc : isOperatorStart c = true) : Lexeme [c] (.operator (String.ofList [c]))
  /-- A sign with an equals sign right behind it. -/
  | signEqual {c : Char} (hc : isOperatorStart c = true) :
    Lexeme [c, '='] (.operator (String.ofList [c, '=']))
  /-- A text in quotation marks. -/
  | text {mark : Char} {body s : List Char} (hmark : mark = '"' ∨ mark = '\'')
    (h : Quoted mark body s) : Lexeme (mark :: (body ++ [mark])) (.text (String.ofList s))
  /-- A field name in brackets. -/
  | field {name : List Char} (hname : ']' ∉ name) :
    Lexeme ('[' :: (name ++ [']'])) (.field (String.ofList name))
  /-- A number: digits, and a point at most. -/
  | number {c : Char} {cs : List Char} {x : Float} (hc : Decimal.isDigit c = true)
    (hcs : ∀ d ∈ cs, isNumberPart d = true) (hpoint : (c :: cs).count '.' ≤ 1)
    (hread : Decimal.read? (c :: cs) = some x) : Lexeme (c :: cs) (.number x)
  /-- A word. -/
  | word {c : Char} {cs : List Char} (hc : isWordStart c = true)
    (hcs : ∀ d ∈ cs, isWordPart d = true) : Lexeme (c :: cs) (.word (String.ofList (c :: cs)))
  /-- The name of a function. -/
  | function {c : Char} {cs : List Char} (hc : isWordStart c = true)
    (hcs : ∀ d ∈ cs, isWordPart d = true) : Lexeme (c :: cs) (.function (String.ofList (c :: cs)))

/-- Blanks apart, the characters start with an opening parenthesis. -/
def OpensParen (cs : List Char) : Prop := (Text.trimStart cs).head? = some '('

/-- The characters behind the spelling of a token do not belong to it: they continue neither a sign
nor a number nor a word, and they open a parenthesis exactly if the word names a function. -/
def Bounded (lex rest : List Char) : Kind → Prop
  | .operator _ => lex.length = 1 → rest.head? ≠ some '='
  | .number _ => ∀ c ∈ rest.head?, isNumberPart c = false
  | .word _ => (∀ c ∈ rest.head?, isWordPart c = false) ∧ ¬ OpensParen rest
  | .function _ => (∀ c ∈ rest.head?, isWordPart c = false) ∧ OpensParen rest
  | _ => True

/-- The scanner may read the characters as a token, where the rest follows them. -/
def Spelled (lex rest : List Char) (kind : Kind) : Prop := Lexeme lex kind ∧ Bounded lex rest kind

/-! ### Quoted texts -/

section quoted

variable {mark : Char} {body s rest : List Char} {n : Nat}

/-- What stands between quotation marks is read to the closing mark. -/
theorem Quoted.quoted?_eq_some (h : Quoted mark body s) (hm : mark ≠ '\\') (tail : List Char) :
    Token.quoted? mark (body ++ mark :: tail) = some (s, body.length + 1) := by
  induction h with
  | nil =>
    rw [List.nil_append, Token.quoted?, if_pos rfl]
    · rfl
    · exact fun _ _ h _ => hm h
    · exact fun h _ => hm h
  | escaped c h ih => simp [Token.quoted?, ih]
  | @plain c body s hmark hslash h ih =>
    rw [List.cons_append, Token.quoted?, if_neg hmark, ih]
    · rfl
    · exact fun _ _ h _ => hslash h
    · exact fun h _ => hslash h

/-- What is read to the closing mark stands between quotation marks. -/
theorem of_quoted?_eq_some (h : Token.quoted? mark rest = some (s, n)) :
    ∃ body tail, rest = body ++ mark :: tail ∧ n = body.length + 1 ∧ Quoted mark body s := by
  fun_induction Token.quoted? mark rest generalizing s n with
  | case1 => cases h
  | case2 c rest ih =>
    obtain ⟨⟨s', n'⟩, hrest, heq⟩ := Option.map_eq_some_iff.mp h
    obtain ⟨rfl, rfl⟩ := Prod.mk.inj heq
    obtain ⟨body, tail, rfl, rfl, hbody⟩ := ih hrest
    exact ⟨'\\' :: c :: body, tail, rfl, rfl, .escaped c hbody⟩
  | case3 => cases h
  | case4 rest =>
    obtain ⟨rfl, rfl⟩ := Prod.mk.inj (Option.some.inj h)
    exact ⟨[], rest, rfl, rfl, .nil⟩
  | case5 c rest hpair hlone hc ih =>
    obtain ⟨⟨s', n'⟩, hrest, heq⟩ := Option.map_eq_some_iff.mp h
    obtain ⟨rfl, rfl⟩ := Prod.mk.inj heq
    obtain ⟨body, tail, rfl, rfl, hbody⟩ := ih hrest
    have hslash : c ≠ '\\' := by
      rintro rfl
      cases hbodyTail : body ++ mark :: tail with
      | nil => exact hlone rfl hbodyTail
      | cons d rest => exact hpair d rest rfl hbodyTail
    exact ⟨c :: body, tail, rfl, rfl, .plain hc hslash hbody⟩

end quoted

/-! ### Numbers -/

section numbers

variable {c : Char} {cs : List Char}

/-- A run of digits and points is a run of digits, or such a run with a point behind it. -/
theorem dropWhile_isDigit (hcs : ∀ d ∈ cs, isNumberPart d = true) :
    (cs.dropWhile Decimal.isDigit = [] ∧ cs.count '.' = 0) ∨
      ∃ tail, cs.dropWhile Decimal.isDigit = '.' :: tail ∧ (∀ d ∈ tail, isNumberPart d = true) ∧
        cs.count '.' = tail.count '.' + 1 := by
  induction cs with
  | nil => exact .inl ⟨rfl, rfl⟩
  | cons d cs ih =>
    have hrest : ∀ d ∈ cs, isNumberPart d = true := fun e he => hcs e (List.mem_cons_of_mem _ he)
    by_cases hd : Decimal.isDigit d = true
    · have hpoint : d ≠ '.' := by
        rintro rfl
        exact absurd hd (by decide)
      rw [List.dropWhile_cons_of_pos hd, List.count_cons_of_ne hpoint]
      exact ih hrest
    · have hpart := hcs d (List.mem_cons_self ..)
      have hpoint : d = '.' := by simpa [isNumberPart, hd] using hpart
      subst hpoint
      exact .inr ⟨cs, List.dropWhile_cons_of_neg hd, hrest, List.count_cons_self⟩

/-- **A run of digits and points that starts with a digit is a number exactly if there is one point
at most.** -/
theorem isSome_read?_iff (hc : Decimal.isDigit c = true) (hcs : ∀ d ∈ cs, isNumberPart d = true) :
    (Decimal.read? (c :: cs)).isSome ↔ (c :: cs).count '.' ≤ 1 := by
  have hpart : ∀ d ∈ c :: cs, isNumberPart d = true := by
    intro d hd
    rcases List.mem_cons.mp hd with rfl | hd
    · simp [isNumberPart, hc]
    · exact hcs d hd
  have hsign : Decimal.splitSign (c :: cs) = (false, c :: cs) := by
    unfold Decimal.splitSign
    split
    · next h => exact absurd ((List.cons.inj h).1 ▸ hc) (by decide)
    · next h => exact absurd ((List.cons.inj h).1 ▸ hc) (by decide)
    · rfl
  have hwhole : ((c :: cs).takeWhile Decimal.isDigit).isEmpty = false := by
    rw [List.takeWhile_cons_of_pos hc]
    rfl
  simp only [Decimal.read?, Decimal.spelling?, hsign, hwhole, Bool.false_and, Bool.false_eq_true,
    if_false, Option.isSome_map]
  rcases dropWhile_isDigit hpart with ⟨hdrop, hcount⟩ | ⟨tail, hdrop, htail, hcount⟩
  · simp [hdrop, hcount, Decimal.splitFraction, Decimal.exponent?]
  · rw [hdrop, hcount]
    simp only [Decimal.splitFraction]
    rcases dropWhile_isDigit htail with ⟨hdrop', hcount'⟩ | ⟨tail', hdrop', -, hcount'⟩
    · simp [hdrop', hcount', Decimal.exponent?]
    · simp [hdrop', hcount', Decimal.exponent?]

end numbers

/-! ### What the scanner reads -/

section reading

variable {c : Char} {tail rest : List Char} {position n : Nat} {kind : Kind}

/-- Characters of which a part has been read. -/
def ReadsOff (c : Char) (rest : List Char) (kind : Kind) (n : Nat) : Prop :=
  ∃ tail after, rest = tail ++ after ∧ tail.length = n ∧ Spelled (c :: tail) after kind

/-- What follows a run of characters does not continue it. -/
theorem head?_dropWhile {p : Char → Bool} (cs : List Char) :
    ∀ d ∈ (cs.dropWhile p).head?, p d = false := by
  intro d hd
  have h := List.head?_dropWhile_not p cs
  rw [hd] at h
  simpa using h

/-- A sign is read off. -/
theorem readsOff_operatorAt (hc : isOperatorStart c = true) (rest : List Char) :
    ReadsOff c rest (operatorAt c rest).1 (operatorAt c rest).2 := by
  unfold operatorAt
  split
  · next cs =>
    refine ⟨['='], cs, rfl, rfl, .signEqual hc, ?_⟩
    intro h
    cases h
  · next hne =>
    refine ⟨[], rest, rfl, rfl, .sign hc, ?_⟩
    intro _ h
    cases rest with
    | nil => cases h
    | cons d cs =>
      obtain rfl := Option.some.inj h
      exact hne cs rfl

/-- A quoted text is read off. -/
theorem readsOff_of_textAt (hc : c = '"' ∨ c = '\'')
    (h : textAt c rest position = .ok (kind, n)) : ReadsOff c rest kind n := by
  unfold textAt at h
  split at h
  · next s m hquoted =>
    cases h
    obtain ⟨body, after, rfl, rfl, hbody⟩ := of_quoted?_eq_some hquoted
    exact ⟨body ++ [c], after, by simp, by simp, .text hc hbody, trivial⟩
  · cases h

/-- A field name is read off. -/
theorem readsOff_of_fieldAt (h : fieldAt rest position = .ok (kind, n)) :
    ReadsOff '[' rest kind n := by
  unfold fieldAt at h
  dsimp only at h
  split_ifs at h with hlen
  cases h
  let name := rest.takeWhile (· != ']')
  have hsplit : name ++ rest.dropWhile (· != ']') = rest := List.takeWhile_append_dropWhile
  have hname : ']' ∉ name := by
    intro hmem
    have h := List.mem_takeWhile_imp hmem
    simp at h
  cases hdrop : rest.dropWhile (· != ']') with
  | nil =>
    rw [hdrop, List.append_nil] at hsplit
    exact absurd hlen (by rw [show rest.takeWhile (· != ']') = rest from hsplit]; omega)
  | cons d after =>
    have hd : d = ']' := by
      have h := head?_dropWhile (p := (· != ']')) rest d (by rw [hdrop]; rfl)
      simpa using h
    subst hd
    rw [hdrop] at hsplit
    refine ⟨name ++ [']'], after, by simp [hsplit], by simp [name], ?_, trivial⟩
    exact .field hname

/-- A number is read off. -/
theorem readsOff_of_numberAt (hc : Decimal.isDigit c = true)
    (h : numberAt c rest position = .ok (kind, n)) : ReadsOff c rest kind n := by
  unfold numberAt at h
  dsimp only at h
  split at h
  · next x hread =>
    cases h
    have hcs : ∀ d ∈ rest.takeWhile isNumberPart, isNumberPart d = true := fun d hd =>
      List.mem_takeWhile_imp hd
    refine ⟨_, _, List.takeWhile_append_dropWhile.symm, rfl, .number hc hcs ?_ hread, ?_⟩
    · rw [← isSome_read?_iff hc hcs, hread]
      rfl
    · exact head?_dropWhile rest
  · cases h

/-- A word is read off. -/
theorem readsOff_wordAt (hc : isWordStart c = true) (rest : List Char) :
    ReadsOff c rest (wordAt c rest).1 (wordAt c rest).2 := by
  have hcs : ∀ d ∈ rest.takeWhile isWordPart, isWordPart d = true := fun d hd =>
    List.mem_takeWhile_imp hd
  unfold wordAt
  dsimp only
  split
  · next cs hopen =>
    refine ⟨_, _, List.takeWhile_append_dropWhile.symm, rfl, .function hc hcs, ?_, ?_⟩
    · exact head?_dropWhile rest
    · rw [OpensParen, hopen]
      rfl
  · next hopen =>
    refine ⟨_, _, List.takeWhile_append_dropWhile.symm, rfl, .word hc hcs, ?_, ?_⟩
    · exact head?_dropWhile rest
    · intro h
      obtain ⟨cs, hcs⟩ := List.head?_eq_some_iff.mp h
      exact hopen cs hcs

/-- What the scanner reads off is spelled. -/
theorem readsOff_of_lexeme (h : lexeme c rest position = .ok (kind, n)) :
    ReadsOff c rest kind n := by
  unfold lexeme at h
  split_ifs at h with hopen hclose hcomma hsign hquote hfield hdigit hword
  · cases h
    exact ⟨[], rest, rfl, rfl, hopen ▸ .openParen, trivial⟩
  · cases h
    exact ⟨[], rest, rfl, rfl, hclose ▸ .closeParen, trivial⟩
  · cases h
    exact ⟨[], rest, rfl, rfl, hcomma ▸ .comma, trivial⟩
  · obtain ⟨hkind, hn⟩ := Prod.mk.inj (Except.ok.inj h)
    exact hkind ▸ hn ▸ readsOff_operatorAt hsign rest
  · exact readsOff_of_textAt hquote h
  · exact hfield ▸ readsOff_of_fieldAt h
  · exact readsOff_of_numberAt hdigit h
  · obtain ⟨hkind, hn⟩ := Prod.mk.inj (Except.ok.inj h)
    exact hkind ▸ hn ▸ readsOff_wordAt hword rest

/-- A sign that is spelled is read. -/
theorem operatorAt_of_bounded (h : tail = [] ∨ tail = ['='])
    (hb : Bounded (c :: tail) rest (.operator (String.ofList (c :: tail)))) :
    operatorAt c (tail ++ rest) = (.operator (String.ofList (c :: tail)), tail.length) := by
  rcases h with rfl | rfl
  · unfold operatorAt
    split
    · next cs heq =>
      rw [List.nil_append] at heq
      exact absurd (by rw [heq]; rfl) (hb rfl)
    · rfl
  · rfl

/-- A word that is spelled is read. -/
theorem wordAt_of_bounded (hcs : ∀ d ∈ tail, isWordPart d = true)
    (hr : ∀ d ∈ rest.head?, isWordPart d = false) :
    (OpensParen rest →
      wordAt c (tail ++ rest) = (.function (String.ofList (c :: tail)), tail.length)) ∧
    (¬ OpensParen rest →
      wordAt c (tail ++ rest) = (.word (String.ofList (c :: tail)), tail.length)) := by
  rw [wordAt, takeWhile_append_of_head hcs hr, dropWhile_append_of_head hcs hr]
  constructor
  · intro hopen
    obtain ⟨cs, heq⟩ := List.head?_eq_some_iff.mp hopen
    simp only [heq]
  · intro hopen
    split
    · next cs heq => exact absurd (by rw [OpensParen, heq]; rfl) hopen
    · rfl

/-- What is spelled is read, and does not start with a blank. -/
theorem lexeme_of_spelled (h : Spelled (c :: tail) rest kind) :
    isBlank c = false ∧ ∀ position, lexeme c (tail ++ rest) position = .ok (kind, tail.length) := by
  obtain ⟨hlex, hb⟩ := h
  cases hlex with
  | openParen => exact ⟨rfl, fun _ => rfl⟩
  | closeParen => exact ⟨rfl, fun _ => rfl⟩
  | comma => exact ⟨rfl, fun _ => rfl⟩
  | sign hc =>
    obtain ⟨hblank, hread⟩ := lexeme_of_sign rest (List.contains_iff_mem.mp hc)
    refine ⟨hblank, fun position => ?_⟩
    rw [List.nil_append, hread, ← List.nil_append rest, operatorAt_of_bounded (.inl rfl) hb]
  | signEqual hc =>
    obtain ⟨hblank, hread⟩ := lexeme_of_sign ('=' :: rest) (List.contains_iff_mem.mp hc)
    refine ⟨hblank, fun position => ?_⟩
    rw [List.singleton_append, hread]
    rfl
  | @text _ body s hmark hbody =>
    have hquoted : quoted? c (body ++ [c] ++ rest) = some (s, (body ++ [c]).length) := by
      have hslash : c ≠ '\\' := by
        rintro rfl
        exact absurd hmark (by decide)
      rw [List.append_assoc, List.singleton_append, hbody.quoted?_eq_some hslash]
      simp
    have hlexeme : isBlank c = false ∧
        ∀ cs position, lexeme c cs position = textAt c cs position := by
      rcases hmark with rfl | rfl <;> exact ⟨rfl, fun _ _ => rfl⟩
    refine ⟨hlexeme.1, fun position => ?_⟩
    rw [hlexeme.2, textAt, hquoted]
  | @field name hname =>
    refine ⟨rfl, fun position => ?_⟩
    have hread : ∀ cs, lexeme '[' cs position = fieldAt cs position := fun _ => rfl
    have htake : (name ++ ']' :: rest).takeWhile (· != ']') = name := by
      refine takeWhile_append_of_head ?_ (by simp)
      intro d hd
      simpa using fun heq : d = ']' => hname (heq ▸ hd)
    rw [hread, fieldAt, List.append_assoc, List.singleton_append, htake]
    simp
  | number hc hcs hpoint hread =>
    obtain ⟨hblank, hmarks⟩ := not_isBlank_of_isDigit hc
    refine ⟨hblank, fun position => ?_⟩
    rw [lexeme_of_not_mem_marks hmarks, if_pos hc, numberAt, takeWhile_append_of_head hcs hb]
    simp only [hread]
  | word hc hcs =>
    obtain ⟨hblank, hmarks, hdigit⟩ := not_isBlank_of_isWordStart hc
    refine ⟨hblank, fun position => ?_⟩
    rw [lexeme_of_not_mem_marks hmarks, if_neg (by simp [hdigit]), if_pos hc,
      (wordAt_of_bounded hcs hb.1).2 hb.2]
  | function hc hcs =>
    obtain ⟨hblank, hmarks, hdigit⟩ := not_isBlank_of_isWordStart hc
    refine ⟨hblank, fun position => ?_⟩
    rw [lexeme_of_not_mem_marks hmarks, if_neg (by simp [hdigit]), if_pos hc,
      (wordAt_of_bounded hcs hb.1).1 hb.2]

/-- **The scanner reads off what is spelled, and nothing else.** -/
theorem lexeme_eq_ok_iff (c : Char) (rest : List Char) (position : Nat) (kind : Kind) (n : Nat) :
    lexeme c rest position = .ok (kind, n) ↔ ReadsOff c rest kind n := by
  constructor
  · exact readsOff_of_lexeme
  · rintro ⟨tail, after, rfl, rfl, h⟩
    exact (lexeme_of_spelled h).2 position

end reading

end Token

end RecordFormula
