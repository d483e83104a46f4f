import RecordFormula.Proofs.Syntax.Callees
import RecordFormula.Proofs.Syntax.Lexemes

/-!
# Tokens tile the text

The tokens of a text are spelled one after the other, with nothing but blanks around them.

* `Token.Tiles` — characters are spelled tokens and blanks, where other characters follow them.
* **The scanner finds the tokens that tile a text** (`Token.scanFrom_eq_ok_iff`), and where it gives
  up, tokens tile the text before (`Token.of_scanFrom_eq_error`).
* `Token.Tiles.at`, `Token.Tiles.gap` — a token in the middle of a text, and what comes before the
  next one.
* `Token.Tiling`, `Token.Fault` — what the tokens of a text have to do with it, and what an error
  has to do with a text without tokens.
* **Every text has tokens that tile it or a fault, and no formula lacks the parenthesis of a call**
  (`Token.scan_tiles`).
-/

namespace RecordFormula

namespace Token

/-- From a position on, the characters `cs` are spelled tokens with blanks around them, where the
characters `after` follow. -/
inductive Tiles (after : List Char) : Nat → List Char → List Token → Prop
  /-- No characters are left. -/
  | nil (position : Nat) : Tiles after position [] []
  /-- A blank belongs to no token. -/
  | blank {position : Nat} {c : Char} {cs : List Char} {ts : List Token} (hc : isBlank c = true)
    (h : Tiles after (position + 1) cs ts) : Tiles after position (c :: cs) ts
  /-- A token is spelled. -/
  | token {position : Nat} {lex cs : List Char} {kind : Kind} {ts : List Token}
    (hlex : Spelled lex (cs ++ after) kind) (h : Tiles after (position + lex.length) cs ts) :
    Tiles after position (lex ++ cs) (⟨kind, position⟩ :: ts)

variable {position k : Nat} {c : Char} {cs after after' lex rest : List Char} {kind : Kind}
  {tokens ts : List Token} {t u : Token} {e : ScanError}

/-! ### What may follow -/

section following

/-- A parenthesis is opened by some characters, or by what follows them if they are blank. -/
theorem opensParen_append : OpensParen (cs ++ rest) ↔
    OpensParen cs ∨ (∀ c ∈ cs, isBlank c = true) ∧ OpensParen rest := by
  induction cs with
  | nil => simp [OpensParen, Text.trimStart]
  | cons c cs ih =>
    by_cases hc : isBlank c = true
    · have htrim : ∀ ds, Text.trimStart (c :: ds) = Text.trimStart ds := fun ds =>
        List.dropWhile_cons_of_pos hc
      simp only [OpensParen, List.cons_append, htrim] at ih ⊢
      simp [ih, hc]
    · have htrim : ∀ ds, Text.trimStart (c :: ds) = c :: ds := fun ds =>
        List.dropWhile_cons_of_neg hc
      simp [OpensParen, htrim, hc]

/-- A spelling is bounded by what comes before a character that is neither blank nor a
parenthesis. -/
theorem Spelled.truncate (h : Spelled lex (cs ++ c :: rest) kind) (hblank : isBlank c = false)
    (hopen : c ≠ '(') : Spelled lex cs kind := by
  obtain ⟨hlex, hb⟩ := h
  refine ⟨hlex, ?_⟩
  have hhead : ∀ d ∈ cs.head?, d ∈ (cs ++ c :: rest).head? := by
    intro d hd
    rw [List.head?_append, hd]
    rfl
  have hparen : OpensParen (cs ++ c :: rest) ↔ OpensParen cs := by
    have hrest : ¬ OpensParen (c :: rest) := by
      have htrim : Text.trimStart (c :: rest) = c :: rest :=
        List.dropWhile_cons_of_neg (by simp [hblank])
      simpa [OpensParen, htrim] using hopen
    rw [opensParen_append]
    exact or_iff_left fun h => hrest h.2
  cases kind with
  | operator s => exact fun hlen heq => hb hlen (hhead '=' heq)
  | number x => exact fun d hd => hb d (hhead d hd)
  | word name => exact ⟨fun d hd => hb.1 d (hhead d hd), fun h => hb.2 (hparen.mpr h)⟩
  | function name => exact ⟨fun d hd => hb.1 d (hhead d hd), hparen.mp hb.2⟩
  | _ => trivial

/-- Tokens tile characters whatever follows, if it bounds the same spellings. -/
theorem Tiles.congr (h : Tiles after position cs ts)
    (hafter : ∀ lex cs kind, Spelled lex (cs ++ after) kind → Spelled lex (cs ++ after') kind) :
    Tiles after' position cs ts := by
  induction h with
  | nil position => exact .nil position
  | blank hc h ih => exact .blank hc ih
  | token hlex h ih => exact .token (hafter _ _ _ hlex) ih

end following

/-! ### Scanning -/

section scanning

/-- The spelling of a token has a first character. -/
theorem Lexeme.exists_cons (h : Lexeme lex kind) : ∃ c tail, lex = c :: tail := by
  cases h <;> exact ⟨_, _, rfl⟩

/-- The end of the formula is not spelled. -/
theorem Lexeme.ne_finish (h : Lexeme lex kind) : kind ≠ .finish := by
  rintro rfl
  cases h

/-- A spelled token is read, and then what follows it. -/
theorem scanFrom_spelled (h : Spelled lex rest kind) (position : Nat) :
    scanFrom position (lex ++ rest) =
      (scanFrom (position + lex.length) rest).map (⟨kind, position⟩ :: ·) := by
  obtain ⟨c, tail, rfl⟩ := h.1.exists_cons
  obtain ⟨hblank, hread⟩ := lexeme_of_spelled h
  rw [List.cons_append, scanFrom, if_neg (by simp [hblank]), hread position, List.length_cons]
  simp only [List.drop_left, Nat.add_assoc, Nat.add_comm 1]

/-- Tokens that tile characters are read, and then what follows. -/
theorem Tiles.scanFrom (h : Tiles after position cs ts) :
    scanFrom position (cs ++ after) =
      (scanFrom (position + cs.length) after).map (ts ++ ·) := by
  induction h with
  | nil position =>
    rw [List.nil_append]
    cases Token.scanFrom position after <;> rfl
  | @blank position c cs ts hc h ih =>
    rw [List.cons_append, Token.scanFrom, if_pos hc, ih, List.length_cons, Nat.add_assoc,
      Nat.add_comm 1]
  | @token position lex cs kind ts hlex h ih =>
    rw [List.append_assoc, scanFrom_spelled hlex, ih, List.length_append, ← Nat.add_assoc]
    cases Token.scanFrom (position + lex.length + cs.length) after <;> rfl

/-- What the scanner finds tiles the characters. -/
theorem tiles_of_scanFrom (h : scanFrom position cs = .ok tokens) :
    ∃ ts, tokens = ts ++ [⟨.finish, position + cs.length⟩] ∧ Tiles [] position cs ts := by
  induction position, cs using scanFrom.induct generalizing tokens with
  | case1 position =>
    rw [scanFrom] at h
    cases h
    exact ⟨[], rfl, .nil position⟩
  | case2 position c cs hblank ih =>
    rw [scanFrom, if_pos hblank] at h
    obtain ⟨ts, rfl, hts⟩ := ih h
    refine ⟨ts, ?_, .blank hblank hts⟩
    rw [List.length_cons, Nat.add_assoc, Nat.add_comm 1]
  | case3 position c cs hblank e hlexeme =>
    rw [scanFrom, if_neg hblank, hlexeme] at h
    cases h
  | case4 position c cs hblank kind n hlexeme ih =>
    obtain ⟨tail, rest, rfl, rfl, hspelled⟩ := (lexeme_eq_ok_iff ..).mp hlexeme
    rw [← List.cons_append, scanFrom_spelled hspelled] at h
    rw [List.drop_left, Nat.add_assoc, Nat.add_comm 1] at ih
    cases hscan : scanFrom (position + (c :: tail).length) rest with
    | error e =>
      rw [hscan] at h
      cases h
    | ok tokens' =>
      rw [hscan] at h
      obtain rfl := Except.ok.inj h
      obtain ⟨ts, rfl, hts⟩ := ih hscan
      refine ⟨⟨kind, position⟩ :: ts, ?_, .token (by rwa [List.append_nil]) hts⟩
      simp [Nat.add_assoc, Nat.add_comm 1]

/-- **The scanner finds the tokens that tile the characters, and the end of the text.** -/
theorem scanFrom_eq_ok_iff (position : Nat) (cs : List Char) (tokens : List Token) :
    scanFrom position cs = .ok tokens ↔
      ∃ ts, tokens = ts ++ [⟨.finish, position + cs.length⟩] ∧ Tiles [] position cs ts := by
  constructor
  · exact tiles_of_scanFrom
  · rintro ⟨ts, rfl, hts⟩
    have h := hts.scanFrom
    rwa [List.append_nil, scanFrom] at h

/-- **Where the scanner gives up, tokens tile the characters before**, and none can be read off. -/
theorem of_scanFrom_eq_error (h : scanFrom position cs = .error e) :
    ∃ before c rest ts, cs = before ++ c :: rest ∧ Tiles (c :: rest) position before ts ∧
      isBlank c = false ∧ lexeme c rest (position + before.length) = .error e := by
  induction position, cs using scanFrom.induct with
  | case1 position =>
    rw [scanFrom] at h
    cases h
  | case2 position c cs hblank ih =>
    rw [scanFrom, if_pos hblank] at h
    obtain ⟨before, d, rest, ts, rfl, hts, hd, herror⟩ := ih h
    refine ⟨c :: before, d, rest, ts, rfl, .blank hblank hts, hd, ?_⟩
    rwa [List.length_cons, Nat.add_comm _ 1, ← Nat.add_assoc]
  | case3 position c cs hblank e' hlexeme =>
    rw [scanFrom, if_neg hblank, hlexeme] at h
    obtain rfl := Except.error.inj h
    exact ⟨[], c, cs, [], rfl, .nil position, by simpa using hblank, hlexeme⟩
  | case4 position c cs hblank kind n hlexeme ih =>
    obtain ⟨tail, rest, rfl, rfl, hspelled⟩ := (lexeme_eq_ok_iff ..).mp hlexeme
    rw [← List.cons_append, scanFrom_spelled hspelled] at h
    rw [List.drop_left, Nat.add_assoc, Nat.add_comm 1] at ih
    cases hscan : scanFrom (position + (c :: tail).length) rest with
    | error e' =>
      rw [hscan] at h
      obtain rfl := Except.error.inj h
      obtain ⟨before, d, rest', ts, rfl, hts, hd, herror⟩ := ih hscan
      refine ⟨c :: tail ++ before, d, rest', ⟨kind, position⟩ :: ts, by simp, .token hspelled hts,
        hd, ?_⟩
      rwa [List.length_append, ← Nat.add_assoc]
    | ok tokens =>
      rw [hscan] at h
      cases h

end scanning

/-! ### In the middle of a text -/

section tiles

/-- Tokens start at the characters that they tile. -/
theorem Tiles.bounds (h : Tiles after position cs ts) :
    ∀ t ∈ ts, position ≤ t.position ∧ t.position < position + cs.length := by
  induction h with
  | nil position => simp
  | blank hc h ih =>
    intro t ht
    have hbounds := ih t ht
    rw [List.length_cons]
    omega
  | token hlex h ih =>
    obtain ⟨c, tail, rfl⟩ := hlex.1.exists_cons
    intro t ht
    simp only [List.length_append, List.length_cons] at ih ⊢
    rcases List.mem_cons.mp ht with rfl | ht
    · dsimp only
      omega
    · have hbounds := ih t ht
      omega

/-- One token comes after the other. -/
theorem Tiles.increasing (h : Tiles after position cs ts) :
    ts.Pairwise fun t u => t.position < u.position := by
  induction h with
  | nil position => exact List.Pairwise.nil
  | blank hc h ih => exact ih
  | token hlex h ih =>
    obtain ⟨c, tail, rfl⟩ := hlex.1.exists_cons
    refine List.pairwise_cons.mpr ⟨fun t ht => ?_, ih⟩
    have hbounds := h.bounds t ht
    rw [List.length_cons] at hbounds
    dsimp only
    omega

/-- Each token is spelled. -/
theorem Tiles.ne_finish (h : Tiles after position cs ts) : ∀ t ∈ ts, t.kind ≠ .finish := by
  induction h with
  | nil position => simp
  | blank hc h ih => exact ih
  | token hlex h ih =>
    intro t ht
    rcases List.mem_cons.mp ht with rfl | ht
    · exact hlex.1.ne_finish
    · exact ih t ht

/-- A token in the middle of a text: tokens tile what comes before it, the token is spelled at its
position, and tokens tile what comes behind it. -/
theorem Tiles.at (h : Tiles after position cs ts) (ht : ts[k]? = some t) :
    ∃ before lex rest, cs = before ++ (lex ++ rest) ∧ t.position = position + before.length ∧
      Tiles (lex ++ rest ++ after) position before (ts.take k) ∧
      Spelled lex (rest ++ after) t.kind ∧
      Tiles after (t.position + lex.length) rest (ts.drop (k + 1)) := by
  induction h generalizing k with
  | nil position => cases ht
  | @blank position c cs ts hc h ih =>
    obtain ⟨before, lex, rest, rfl, hposition, hbefore, hlex, hrest⟩ := ih ht
    refine ⟨c :: before, lex, rest, rfl, ?_, .blank hc hbefore, hlex, hrest⟩
    rw [hposition, List.length_cons]
    omega
  | @token position lex cs kind ts hlex h ih =>
    cases k with
    | zero =>
      obtain rfl := Option.some.inj ht
      exact ⟨[], lex, cs, rfl, rfl, .nil position, hlex, h⟩
    | succ k =>
      obtain ⟨before, lex', rest, rfl, hposition, hbefore, hlex', hrest⟩ := ih ht
      refine ⟨lex ++ before, lex', rest, by simp, ?_, .token (by simpa using hlex) hbefore, hlex',
        hrest⟩
      rw [hposition, List.length_append, Nat.add_assoc]

/-- Only blanks come before the next token, or before the end of the text. The next token is a
parenthesis exactly if one is opened. -/
theorem Tiles.gap (h : Tiles [] position cs ts)
    (hu : (ts ++ [(⟨.finish, position + cs.length⟩ : Token)]).head? = some u) :
    ∃ blanks rest, cs = blanks ++ rest ∧ (∀ c ∈ blanks, isBlank c = true) ∧
      u.position = position + blanks.length ∧ (OpensParen cs ↔ u.kind = .openParen) := by
  induction h with
  | nil position =>
    obtain rfl := Option.some.inj hu
    refine ⟨[], [], rfl, by simp, rfl, ?_⟩
    simp [OpensParen, Text.trimStart]
  | @blank position c cs ts hc h ih =>
    rw [List.length_cons, Nat.add_comm _ 1, ← Nat.add_assoc] at hu
    obtain ⟨blanks, rest, rfl, hblanks, hposition, hopen⟩ := ih hu
    have hall : ∀ d ∈ c :: blanks, isBlank d = true := List.forall_mem_cons.mpr ⟨hc, hblanks⟩
    refine ⟨c :: blanks, rest, rfl, hall, ?_, ?_⟩
    · rw [hposition, List.length_cons]
      omega
    · have htrim : Text.trimStart (c :: (blanks ++ rest)) = Text.trimStart (blanks ++ rest) :=
        List.dropWhile_cons_of_pos hc
      rw [← hopen, OpensParen, htrim]
      rfl
  | @token position lex cs kind ts hlex h ih =>
    obtain rfl := Option.some.inj hu
    refine ⟨[], lex ++ cs, rfl, by simp, rfl, ?_⟩
    obtain ⟨c, tail, rfl⟩ := hlex.1.exists_cons
    obtain ⟨hblank, hread⟩ := lexeme_of_spelled hlex
    have htrim : Text.trimStart (c :: tail ++ cs) = c :: (tail ++ cs) :=
      List.dropWhile_cons_of_neg (by simp [hblank])
    rw [OpensParen, htrim, List.head?_cons, Option.some.injEq]
    constructor
    · rintro rfl
      have hopen := hread 0
      rw [List.append_nil,
        show lexeme '(' (tail ++ cs) 0 = .ok (.openParen, 0) from rfl] at hopen
      exact (Prod.mk.inj (Except.ok.inj hopen)).1.symm
    · rintro rfl
      obtain ⟨hlex, -⟩ := hlex
      cases hlex
      rfl

/-- Behind a token there are blanks and then the next token, or the end of the text. It is a
parenthesis if the token names a function, and none if it is a word. -/
theorem Tiles.next (h : Tiles [] position cs ts) (ht : ts[k]? = some t) :
    ∃ before lex blanks rest u, cs = before ++ (lex ++ (blanks ++ rest)) ∧
      t.position = position + before.length ∧ Lexeme lex t.kind ∧
      (∀ c ∈ blanks, isBlank c = true) ∧
      (ts ++ [(⟨.finish, position + cs.length⟩ : Token)])[k + 1]? = some u ∧
      u.position = t.position + (lex ++ blanks).length ∧
      (∀ name, t.kind = .function name → u.kind = .openParen) ∧
      ∀ name, t.kind = .word name → u.kind ≠ .openParen := by
  obtain ⟨before, lex, rest, rfl, hposition, -, ⟨hlex, hb⟩, hrest⟩ := h.at ht
  have hk : k + 1 ≤ ts.length := (List.getElem?_eq_some_iff.mp ht).1
  obtain ⟨u, hu⟩ : ∃ u, (ts.drop (k + 1) ++
      [(⟨.finish, t.position + lex.length + rest.length⟩ : Token)]).head? = some u := by
    cases ts.drop (k + 1) <;> exact ⟨_, rfl⟩
  have hend : position + (before ++ (lex ++ rest)).length =
      t.position + lex.length + rest.length := by
    simp only [List.length_append]
    omega
  have hnext : (ts ++ [(⟨.finish, position + (before ++ (lex ++ rest)).length⟩ : Token)])[k + 1]? =
      some u := by
    rw [← List.head?_drop, List.drop_append_of_le_length hk, hend, hu]
  obtain ⟨blanks, rest', rfl, hblanks, hu', hopen⟩ := hrest.gap hu
  rw [List.append_nil] at hb
  refine ⟨before, lex, blanks, rest', u, rfl, hposition, hlex, hblanks, hnext, ?_, ?_, ?_⟩
  · rw [hu', List.length_append, Nat.add_assoc]
  · intro name hname
    rw [hname] at hb
    exact hopen.mp hb.2
  · intro name hname hkind
    rw [hname] at hb
    exact hb.2 (hopen.mpr hkind)

end tiles

/-! ### Tokens and faults -/

section texts

variable {formula : String}

/-- What the tokens of a text have to do with it. -/
structure Tiling (formula : String) (tokens : List Token) : Prop where
  /-- One token comes after the other. -/
  increasing : tokens.Pairwise fun t u => t.position < u.position
  /-- The last token, and no other, is the end of the text, behind all its characters. -/
  ends : ∃ ts, tokens = ts ++ [⟨.finish, formula.length⟩] ∧ ∀ t ∈ ts, t.kind ≠ .finish
  /-- Only blanks come before the first token. -/
  first : ∀ t, tokens.head? = some t → ∀ c ∈ formula.toList.take t.position, isBlank c = true
  /-- From one token to the next there are the spelling of the one and blanks. -/
  spelled : ∀ k t u, tokens[k]? = some t → tokens[k + 1]? = some u →
    ∃ lex blanks, (formula.toList.drop t.position).take (u.position - t.position) = lex ++ blanks ∧
      Lexeme lex t.kind ∧ ∀ c ∈ blanks, isBlank c = true
  /-- A parenthesis comes behind the name of a function. -/
  called : Called tokens
  /-- No parenthesis comes behind another word. -/
  uncalled : ∀ k t u name, tokens[k]? = some t → t.kind = .word name → tokens[k + 1]? = some u →
    u.kind ≠ .openParen

/-- The character opens a token that cannot be read for the reason that the error gives. -/
def ScanError.OpenedBy (c : Char) : ScanError → Prop
  | .unexpectedCharacter d _ => d = c
  | .unterminatedText _ => c = '"' ∨ c = '\''
  | .unterminatedField _ => c = '['
  | .malformedNumber _ _ => Decimal.isDigit c = true

/-- What an error has to do with a text that has no tokens. -/
structure Fault (formula : String) (e : ScanError) : Prop where
  /-- It is inside the text. -/
  lt_length : e.position < formula.length
  /-- The text before it has tokens. -/
  before : ∃ tokens, scan (String.ofList (formula.toList.take e.position)) = .ok tokens
  /-- There the tokens before it end, and a character that is not blank opens a token that cannot be
  read. -/
  start : ∃ c rest ts, formula.toList.drop e.position = c :: rest ∧
    Tiles (c :: rest) 0 (formula.toList.take e.position) ts ∧ isBlank c = false ∧ e.OpenedBy c ∧
    ∀ kind n, ¬ ReadsOff c rest kind n

/-- The tokens of a text tile it. -/
theorem tiling_of_scan (h : scan formula = .ok tokens) : Tiling formula tokens := by
  obtain ⟨ts, rfl, hts⟩ := tiles_of_scanFrom h
  have hnext {k : Nat} {t u : Token}
      (hu : (ts ++ [(⟨.finish, 0 + formula.toList.length⟩ : Token)])[k + 1]? = some u)
      (ht : (ts ++ [(⟨.finish, 0 + formula.toList.length⟩ : Token)])[k]? = some t) :
      ts[k]? = some t := by
    have hk : k + 1 < (ts ++ [(⟨.finish, 0 + formula.toList.length⟩ : Token)]).length :=
      (List.getElem?_eq_some_iff.mp hu).1
    rw [List.length_append, List.length_singleton] at hk
    rwa [List.getElem?_append_left (by omega)] at ht
  constructor
  case increasing =>
    rw [List.pairwise_append]
    refine ⟨hts.increasing, List.pairwise_singleton .., fun t ht u hu => ?_⟩
    obtain rfl := List.mem_singleton.mp hu
    exact (hts.bounds t ht).2
  case ends =>
    refine ⟨ts, ?_, hts.ne_finish⟩
    rw [Nat.zero_add, String.length_toList]
  case first =>
    intro t ht c hc
    obtain ⟨blanks, rest, hsplit, hblanks, hposition, -⟩ := hts.gap ht
    rw [hsplit, hposition, Nat.zero_add, List.take_left] at hc
    exact hblanks c hc
  case spelled =>
    intro k t u ht hu
    obtain ⟨before, lex, blanks, rest, v, hsplit, hposition, hlex, hblanks, hv, hv', -, -⟩ :=
      hts.next (hnext hu ht)
    obtain rfl := Option.some.inj (hv.symm.trans hu)
    refine ⟨lex, blanks, ?_, hlex, hblanks⟩
    rw [hsplit, hv', hposition, Nat.zero_add, List.drop_left, Nat.add_sub_cancel_left,
      ← List.append_assoc, List.take_left]
  case called =>
    intro k t name ht hname
    have hk : k < ts.length := by
      have hlen := (List.getElem?_eq_some_iff.mp ht).1
      rw [List.length_append, List.length_singleton] at hlen
      by_contra hge
      obtain rfl : k = ts.length := by omega
      rw [List.getElem?_append_right (Nat.le_refl _), Nat.sub_self] at ht
      obtain rfl := Option.some.inj ht
      cases hname
    rw [List.getElem?_append_left hk] at ht
    obtain ⟨before, lex, blanks, rest, u, -, -, -, -, hu, -, hfunction, -⟩ := hts.next ht
    obtain ⟨kind, position⟩ := u
    obtain rfl := hfunction name hname
    exact ⟨position, hu⟩
  case uncalled =>
    intro k t u name ht hname hu
    obtain ⟨before, lex, blanks, rest, v, -, -, -, -, hv, -, -, hword⟩ := hts.next (hnext hu ht)
    obtain rfl := Option.some.inj (hv.symm.trans hu)
    exact hword name hname

/-- A token that cannot be read is refused at its first character. -/
theorem of_lexeme_eq_error (h : lexeme c rest position = .error e) :
    e.position = position ∧ e.OpenedBy c := by
  unfold lexeme at h
  split_ifs at h with _ _ _ _ hquote hfield hdigit
  · unfold textAt at h
    split at h
    · cases h
    · cases h
      exact ⟨rfl, hquote⟩
  · unfold fieldAt at h
    dsimp only at h
    split_ifs at h
    cases h
    exact ⟨rfl, hfield⟩
  · unfold numberAt at h
    dsimp only at h
    split at h
    · cases h
    · cases h
      exact ⟨rfl, hdigit⟩
  · cases h
    exact ⟨rfl, rfl⟩

/-- A text without tokens has a fault. -/
theorem fault_of_scan (h : scan formula = .error e) : Fault formula e := by
  obtain ⟨before, c, rest, ts, hsplit, hts, hblank, herror⟩ := of_scanFrom_eq_error h
  obtain ⟨hposition, hopened⟩ := of_lexeme_eq_error herror
  rw [Nat.zero_add] at hposition
  have hopen : c ≠ '(' := by
    rintro rfl
    cases herror
  have hbefore : Tiles [] 0 before ts := hts.congr fun lex cs kind hlex => by
    rw [List.append_nil]
    exact hlex.truncate hblank hopen
  have htake : formula.toList.take e.position = before := by rw [hsplit, hposition, List.take_left]
  have hdrop : formula.toList.drop e.position = c :: rest := by
    rw [hsplit, hposition, List.drop_left]
  constructor
  · have hlen := congrArg List.length hsplit
    rw [String.length_toList, List.length_append, List.length_cons] at hlen
    omega
  · rw [htake, scan, String.toList_ofList]
    exact ⟨_, (scanFrom_eq_ok_iff ..).mpr ⟨ts, rfl, hbefore⟩⟩
  · refine ⟨c, rest, ts, hdrop, by rwa [htake], hblank, hopened, fun kind n hread => ?_⟩
    rw [(lexeme_eq_ok_iff ..).mpr hread] at herror
    cases herror

/-- **Every text has tokens that tile it, or a fault.** In neither case does it lack the parenthesis
of a call. -/
theorem scan_tiles (formula : String) :
    (match scan formula with
      | .ok tokens => Tiling formula tokens
      | .error e => Fault formula e) ∧
    ∀ name found position,
      Expr.ofText formula ≠ .error (.parse (.expected (.openParen name) found position)) := by
  cases hscan : scan formula with
  | error e =>
    refine ⟨fault_of_scan hscan, fun name found position h => ?_⟩
    simp only [Expr.ofText, hscan] at h
    cases h
  | ok tokens =>
    have htiling := tiling_of_scan hscan
    refine ⟨htiling, fun name found position h => ?_⟩
    obtain ⟨ts, rfl, hno⟩ := htiling.ends
    have hparse := Expr.ofTokens_ne_openParen hno htiling.called name found position
    simp only [Expr.ofText, hscan] at h
    cases htree : Expr.ofTokens (ts ++ [⟨.finish, formula.length⟩]) with
    | ok tree =>
      rw [htree] at h
      cases h
    | error e =>
      rw [htree] at h
      obtain rfl := Expr.SyntaxError.parse.inj (Except.error.inj h)
      exact hparse htree

end texts

end Token

end RecordFormula
