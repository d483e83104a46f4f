import RecordFormula.Formula
import RecordFormula.Proofs.Syntax.Tiling

/-!
# Blanks between tokens

Blanks that are put between the tokens of a text change where the tokens behind them are, and
nothing else.

* `Token.relocate` and the like — tokens and errors at other positions. **The parser only passes
  positions on** (`Expr.ofTokens_relocate`).
* `Formula.spaced` — a text with blanks put before one of its characters.
* **The tokens behind the blanks move, and no others do** (`Token.scan_spaced`).
* **Blanks between tokens do not matter** (`Formula.spaced_between_tokens`).
-/

namespace RecordFormula

/-! ### Other positions -/

section positions

variable (f : Nat → Nat)

/-- The token at another position. -/
def Token.relocate (t : Token) : Token := ⟨t.kind, f t.position⟩

/-- The error at another position. -/
def Expr.ParseError.relocate : ParseError → ParseError
  | .expected what found position => .expected what found (f position)
  | .unexpected found position => .unexpected found (f position)

/-- The error at another position, if the text has tokens. -/
def Expr.SyntaxError.relocate : SyntaxError → SyntaxError
  | .scan e => .scan e
  | .parse e => .parse (e.relocate f)

/-- The error at another position, if it has one. -/
def FormulaError.relocate : FormulaError → FormulaError
  | .unreadable e => .unreadable (e.relocate f)
  | .failed e => .failed e

namespace Expr

open Token (Kind)

/-- A token that is read passes its position on. -/
theorem step_relocate (s : State) (t : Token) :
    step s (t.relocate f) = (step s t).mapError (ParseError.relocate f) := by
  obtain ⟨kind, position⟩ := t
  cases s with
  | operand before frames =>
    cases kind with
    | operator symbol =>
      simp only [step, stepOperand, Token.relocate]
      split <;> rfl
    | closeParen =>
      simp only [step, stepOperand, Token.relocate]
      split <;> rfl
    | _ => rfl
  | callee name frames => cases kind <;> rfl
  | complete tree frames =>
    cases kind with
    | operator symbol =>
      simp only [step, stepComplete, Token.relocate]
      split <;> rfl
    | closeParen =>
      simp only [step, stepComplete, Token.relocate]
      split <;> rfl
    | comma =>
      simp only [step, stepComplete, Token.relocate]
      split <;> rfl
    | _ => rfl

/-- Tokens that are read pass their positions on. -/
theorem run_relocate (s : State) (ts : List Token) :
    run s (ts.map (Token.relocate f)) = (run s ts).mapError (ParseError.relocate f) := by
  induction ts generalizing s with
  | nil => rfl
  | cons t ts ih =>
    rw [List.map_cons, run, run, step_relocate]
    cases step s t with
    | error e => rfl
    | ok s' => exact ih s'

/-- The end of a formula passes its position on. -/
theorem finish_relocate (s : State) (t : Token) :
    finish s (t.relocate f) = (finish s t).mapError (ParseError.relocate f) := by
  cases s with
  | operand before frames => rfl
  | callee name frames => rfl
  | complete tree frames =>
    simp only [finish]
    split <;> rfl

/-- **Tokens at other positions have the same tree**, or the same error at the other position. -/
theorem ofTokens_relocate {ts : List Token} (hno : ∀ t ∈ ts, t.kind ≠ .finish) (position : Nat) :
    ofTokens ((ts ++ [(⟨.finish, position⟩ : Token)]).map (Token.relocate f)) =
      (ofTokens (ts ++ [⟨.finish, position⟩])).mapError (ParseError.relocate f) := by
  have hno' : ∀ t ∈ ts.map (Token.relocate f), t.kind ≠ .finish := by
    intro t ht
    obtain ⟨u, hu, rfl⟩ := List.mem_map.mp ht
    exact hno u hu
  have hend : [(⟨.finish, position⟩ : Token)].map (Token.relocate f) =
      [⟨.finish, f position⟩] := rfl
  rw [List.map_append, hend]
  simp only [ofTokens, untilFinish_append_finish hno', untilFinish_append_finish hno,
    run_relocate]
  cases run (.operand .other []) ts with
  | error e => rfl
  | ok s => exact finish_relocate f s ⟨.finish, position⟩

end Expr

end positions

/-! ### Blanks -/

namespace Token

section blanks

variable {position k : Nat} {cs after lex blanks : List Char} {kind : Kind} {ts : List Token}
  {t : Token}

/-- A blank continues no token. -/
theorem of_isBlank {c : Char} (h : isBlank c = true) :
    c ≠ '=' ∧ isNumberPart c = false ∧ isWordPart c = false := by
  have hprinted : ¬ (33 ≤ c.toNat ∧ c.toNat ≤ 126) := by
    intro hrange
    rw [isBlank_of_printed hrange] at h
    cases h
  refine ⟨?_, ?_, ?_⟩
  · rintro rfl
    exact hprinted (by decide)
  · rw [Bool.eq_false_iff]
    intro hpart
    rcases Bool.or_eq_true_iff.mp hpart with hdigit | hpoint
    · exact absurd h (by simp [(not_isBlank_of_isDigit hdigit).1])
    · obtain rfl := beq_iff_eq.mp hpoint
      exact hprinted (by decide)
  · rw [Bool.eq_false_iff]
    intro hpart
    apply hprinted
    simp only [isWordPart, Char.isAlphanum, Char.isAlpha, Char.isUpper, Char.isLower, Char.isDigit,
      Bool.or_eq_true, Bool.and_eq_true, decide_eq_true_eq, beq_iff_eq, ge_iff_le,
      UInt32.le_iff_toNat_le] at hpart
    rcases hpart with (((hpart | hpart) | hpart) | rfl)
    · exact ⟨Nat.le_trans (by decide) hpart.1, Nat.le_trans hpart.2 (by decide)⟩
    · exact ⟨Nat.le_trans (by decide) hpart.1, Nat.le_trans hpart.2 (by decide)⟩
    · exact ⟨Nat.le_trans (by decide) hpart.1, Nat.le_trans hpart.2 (by decide)⟩
    · decide

/-- Blanks that are put behind a spelling, or further behind, leave it bounded. -/
theorem Spelled.spaced (hblanks : ∀ c ∈ blanks, isBlank c = true)
    (h : Spelled lex (cs ++ after) kind) : Spelled lex (cs ++ (blanks ++ after)) kind := by
  obtain ⟨hlex, hb⟩ := h
  refine ⟨hlex, ?_⟩
  have hhead : ∀ d ∈ (cs ++ (blanks ++ after)).head?,
      isBlank d = true ∨ d ∈ (cs ++ after).head? := by
    intro d hd
    cases cs with
    | cons c cs => exact .inr hd
    | nil =>
      cases blanks with
      | nil => exact .inr hd
      | cons b blanks =>
        obtain rfl := Option.some.inj hd
        exact .inl (hblanks b (List.mem_cons_self ..))
  have hparen : OpensParen (cs ++ (blanks ++ after)) ↔ OpensParen (cs ++ after) := by
    have hskip : OpensParen (blanks ++ after) ↔ OpensParen after := by
      have htrim : Text.trimStart (blanks ++ after) = Text.trimStart after :=
        List.dropWhile_append_of_pos hblanks
      rw [OpensParen, OpensParen, htrim]
    calc OpensParen (cs ++ (blanks ++ after))
      _ ↔ OpensParen cs ∨ (∀ c ∈ cs, isBlank c = true) ∧ OpensParen (blanks ++ after) :=
        opensParen_append
      _ ↔ OpensParen cs ∨ (∀ c ∈ cs, isBlank c = true) ∧ OpensParen after := by rw [hskip]
      _ ↔ OpensParen (cs ++ after) := opensParen_append.symm
  cases kind with
  | operator s =>
    intro hlen heq
    rcases hhead '=' heq with hblank | hmem
    · exact (of_isBlank hblank).1 rfl
    · exact hb hlen hmem
  | number x =>
    intro d hd
    rcases hhead d hd with hblank | hmem
    · exact (of_isBlank hblank).2.1
    · exact hb d hmem
  | word name =>
    refine ⟨fun d hd => ?_, fun h => hb.2 (hparen.mp h)⟩
    rcases hhead d hd with hblank | hmem
    · exact (of_isBlank hblank).2.2
    · exact hb.1 d hmem
  | function name =>
    refine ⟨fun d hd => ?_, hparen.mpr hb.2⟩
    rcases hhead d hd with hblank | hmem
    · exact (of_isBlank hblank).2.2
    · exact hb.1 d hmem
  | _ => trivial

/-- Blanks are passed over. -/
theorem scanFrom_blanks (hblanks : ∀ c ∈ blanks, isBlank c = true) (position : Nat)
    (cs : List Char) :
    scanFrom position (blanks ++ cs) = scanFrom (position + blanks.length) cs := by
  induction blanks generalizing position with
  | nil => rfl
  | cons c blanks ih =>
    obtain ⟨hc, hrest⟩ := List.forall_mem_cons.mp hblanks
    rw [List.cons_append, scanFrom, if_pos hc, ih hrest, List.length_cons, Nat.add_assoc,
      Nat.add_comm 1]

/-- Tokens that tile characters tile them at any distance. -/
theorem Tiles.relocate (h : Tiles after position cs ts) (n : Nat) :
    Tiles after (position + n) cs (ts.map (Token.relocate (· + n))) := by
  induction h with
  | nil position => exact .nil _
  | blank hc h ih => exact .blank hc (by rwa [Nat.add_right_comm])
  | token hlex h ih => exact .token hlex (by rwa [Nat.add_right_comm])

/-- A text falls into two parts at a token, and tokens tile both. -/
theorem Tiles.splitAt (h : Tiles [] 0 cs ts)
    (ht : (ts ++ [(⟨.finish, cs.length⟩ : Token)])[k]? = some t) :
    ∃ before behind, cs = before ++ behind ∧ t.position = before.length ∧ k ≤ ts.length ∧
      Tiles behind 0 before (ts.take k) ∧ Tiles [] t.position behind (ts.drop k) := by
  have hk : k < ts.length + 1 := by
    simpa using (List.getElem?_eq_some_iff.mp ht).1
  by_cases hlast : k = ts.length
  · -- the token is the end of the text
    subst hlast
    rw [List.getElem?_append_right (Nat.le_refl _), Nat.sub_self] at ht
    obtain rfl := Option.some.inj ht
    refine ⟨cs, [], by simp, rfl, Nat.le_refl _, ?_, ?_⟩
    · rwa [List.take_length]
    · rw [List.drop_length]
      exact .nil _
  · rw [List.getElem?_append_left (by omega)] at ht
    obtain ⟨before, lex, rest, rfl, hposition, hbefore, hlex, hrest⟩ := h.at ht
    refine ⟨before, lex ++ rest, rfl, by omega, by omega, by simpa using hbefore, ?_⟩
    obtain ⟨hlt, rfl⟩ := List.getElem?_eq_some_iff.mp ht
    rw [List.drop_eq_getElem_cons hlt]
    exact .token hlex hrest

end blanks

end Token

/-! ### Formulas -/

/-- A text with blanks put before the character at a position. -/
def Formula.spaced (formula : String) (position : Nat) (blanks : String) : String :=
  String.ofList (formula.toList.take position ++ (blanks.toList ++ formula.toList.drop position))

/-- Positions from a first one on, moved further. -/
def Token.moved (first distance position : Nat) : Nat :=
  if first ≤ position then position + distance else position

section formulas

variable {formula blanks : String} {tokens : List Token} {t : Token} {k : Nat}

/-- **Blanks before a token move it and the tokens behind it**, and change no token otherwise. -/
theorem Token.scan_spaced (hscan : scan formula = .ok tokens) (ht : tokens[k]? = some t)
    (hblanks : Text.isBlankText blanks = true) :
    scan (Formula.spaced formula t.position blanks) =
      .ok (tokens.take k ++ (tokens.drop k).map (relocate (· + blanks.length))) := by
  have hall : ∀ c ∈ blanks.toList, isBlank c = true := List.all_eq_true.mp hblanks
  obtain ⟨ts, rfl, hts⟩ := tiles_of_scanFrom hscan
  rw [Nat.zero_add] at ht ⊢
  obtain ⟨before, behind, hsplit, hposition, hk, hbefore, hbehind⟩ := hts.splitAt ht
  have hread := (hbefore.congr fun _ _ _ => Spelled.spaced hall).scanFrom
  have hrest := (hbehind.relocate blanks.length).scanFrom
  rw [List.append_nil, scanFrom] at hrest
  rw [scan, Formula.spaced, String.toList_ofList, hsplit, hposition, List.take_left, List.drop_left,
    hread, scanFrom_blanks hall, String.length_toList, Nat.zero_add, ← hposition, hrest,
    List.take_append_of_le_length hk, List.drop_append_of_le_length hk]
  simp [Except.map, relocate, hposition, Nat.add_right_comm]

/-- The tokens from one on are those whose position is not before its position. -/
theorem Token.map_relocate_moved (hinc : tokens.Pairwise fun t u => t.position < u.position)
    (ht : tokens[k]? = some t) (n : Nat) :
    tokens.map (relocate (moved t.position n)) =
      tokens.take k ++ (tokens.drop k).map (relocate (· + n)) := by
  obtain ⟨hlt, heq⟩ := List.getElem?_eq_some_iff.mp ht
  have hdrop : tokens.drop k = t :: tokens.drop (k + 1) := by
    rw [List.drop_eq_getElem_cons hlt, heq]
  have hsplit := List.take_append_drop k tokens
  rw [← hsplit, hdrop, List.pairwise_append, List.pairwise_cons] at hinc
  obtain ⟨-, ⟨hbehind, -⟩, hbefore⟩ := hinc
  have htake : (tokens.take k).map (relocate (moved t.position n)) = tokens.take k := by
    conv_rhs => rw [← List.map_id (tokens.take k)]
    refine List.map_congr_left fun u hu => ?_
    have hlt := hbefore u hu t (List.mem_cons_self ..)
    rw [relocate, moved, if_neg (by omega)]
    rfl
  conv_lhs => rw [← hsplit]
  rw [List.map_append, htake]
  congr 1
  refine List.map_congr_left fun u hu => ?_
  have hle : t.position ≤ u.position := by
    rw [hdrop] at hu
    rcases List.mem_cons.mp hu with rfl | hu
    · exact Nat.le_refl _
    · exact Nat.le_of_lt (hbehind u hu)
  rw [relocate, relocate, moved, if_pos hle]

/-- **Blanks between tokens do not matter.** Blanks put before a token of a text that has tokens
move this token and those behind it. The text has the same tree, or the same error at the position
moved likewise, and is evaluated as before. -/
theorem Formula.spaced_between_tokens (formula blanks : String) (tokens : List Token) (k : Nat)
    (t : Token) (hscan : Token.scan formula = .ok tokens) (ht : tokens[k]? = some t)
    (hblanks : Text.isBlankText blanks = true) :
    let text := spaced formula t.position blanks
    let f := Token.moved t.position blanks.length
    Token.scan text =
        .ok (tokens.take k ++ (tokens.drop k).map (Token.relocate (· + blanks.length))) ∧
      Expr.ofText text = (Expr.ofText formula).mapError (Expr.SyntaxError.relocate f) ∧
      ∀ registry record, evaluate registry text record = do
        return (← evaluate registry formula record).mapError (FormulaError.relocate f) := by
  intro text f
  have htext : Token.scan text = .ok (tokens.map (Token.relocate f)) := by
    rw [Token.map_relocate_moved (Token.tiling_of_scan hscan).increasing ht]
    exact Token.scan_spaced hscan ht hblanks
  have htree : Expr.ofText text = (Expr.ofText formula).mapError (Expr.SyntaxError.relocate f) := by
    obtain ⟨ts, rfl, hno⟩ := (Token.tiling_of_scan hscan).ends
    simp only [Expr.ofText, htext, hscan, Expr.ofTokens_relocate f hno]
    cases Expr.ofTokens (ts ++ [⟨.finish, formula.length⟩]) <;> rfl
  refine ⟨Token.scan_spaced hscan ht hblanks, htree, fun registry record => ?_⟩
  unfold evaluate
  rw [htree]
  cases Expr.ofText formula with
  | error e => rfl
  | ok tree =>
    funext env st
    have hvalue : ∀ x : Except EvalError Value,
        x.mapError FormulaError.failed =
          (x.mapError FormulaError.failed).mapError (FormulaError.relocate f) := by
      intro x
      cases x <;> rfl
    exact Prod.ext (hvalue _) rfl

/-- Blanks before the parenthesis of a call, in a text that is no formula. -/
theorem Formula.spaced_between_tokens_call :
    let tokens : List Token := [⟨.function "IF", 0⟩, ⟨.openParen, 3⟩, ⟨.word "a", 4⟩,
      ⟨.operator ">=", 5⟩, ⟨.closeParen, 7⟩, ⟨.finish, 8⟩]
    Token.scan "IF (a>=)" = .ok tokens ∧ tokens[1]? = some ⟨.openParen, 3⟩ ∧
      Text.isBlankText " \t" = true ∧ spaced "IF (a>=)" 3 " \t" = "IF  \t(a>=)" ∧
      Token.scan "IF  \t(a>=)" = .ok [⟨.function "IF", 0⟩, ⟨.openParen, 5⟩, ⟨.word "a", 6⟩,
        ⟨.operator ">=", 7⟩, ⟨.closeParen, 9⟩, ⟨.finish, 10⟩] ∧
      Expr.ofText "IF  \t(a>=)" = .error (.parse (.unexpected .closeParen 9)) := by
  intro tokens
  have hscan : Token.scan "IF (a>=)" = .ok tokens := by
    simp [tokens, Token.scan, Token.scanFrom, Token.lexeme, Token.wordAt, Token.operatorAt,
      Token.isOperatorStart, Token.isWordStart, Token.isWordPart, Decimal.isDigit, isBlank,
      Text.trimStart, Except.map]
  have htree : Expr.ofText "IF (a>=)" = .error (.parse (.unexpected .closeParen 7)) := by
    rw [Expr.ofText, hscan]
    rfl
  have hspaced : spaced "IF (a>=)" 3 " \t" = "IF  \t(a>=)" := rfl
  obtain ⟨htext, htree', -⟩ := spaced_between_tokens _ " \t" tokens 1 ⟨.openParen, 3⟩ hscan rfl rfl
  rw [hspaced] at htext htree'
  rw [htree] at htree'
  exact ⟨hscan, rfl, rfl, hspaced, htext, htree'⟩

end formulas

end RecordFormula
