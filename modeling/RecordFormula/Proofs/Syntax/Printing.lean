import RecordFormula.Expr.Evaluate
import RecordFormula.Proofs.Decimal.Spelling
import RecordFormula.Proofs.Syntax.Parsing
import RecordFormula.Proofs.Syntax.Scanning

/-!
# Printing and parsing

The canonical text of a tree is read as the tree, up to the sign of numbers: a number below zero is
written as an operation on its opposite, and read as that operation.

* `Expr.WellFormed` — the trees whose text is a formula; `Expr.negated` puts operations in the place
  of numbers below zero.
* **A text is scanned as the tokens of its tree** (`spells_text`), inside any text that follows.
* **The tokens of a tree are derived as the tree** (`derives_kinds`).
* **Operations on opposite numbers evaluate as the numbers** (`evaluate_negated`).
* **Printing, then parsing** (`ofText_text`).
-/

namespace RecordFormula

namespace Expr

open Token (Kind Spells Delimited)

/-! ### Trees that can be printed -/

/-- Is this the name of a call? -/
def isCallName (name : String) : Bool :=
  match name.toList with
  | [] => false
  | c :: cs => Token.isWordStart c && cs.all Token.isWordPart

/-- A constant that a formula can spell, up to the sign of a number. -/
def Printable : Value → Prop
  | .text _ => True
  | .boolean _ => True
  | .number x => Number.isFinite x = true ∧ x ≠ -0.0
  | _ => False

mutual

/-- A tree whose constants, field names and call names a formula can spell. -/
def WellFormed : Expr → Prop
  | .literal v => Printable v
  | .field name => ']' ∉ name.toList
  | .call name args => isCallName name = true ∧ WellFormedAll args
  | .binary _ left right => WellFormed left ∧ WellFormed right
  | .unary _ operand => WellFormed operand

/-- A list of such trees. -/
def WellFormedAll : List Expr → Prop
  | [] => True
  | e :: rest => WellFormed e ∧ WellFormedAll rest

end

/-- A constant, a number below zero as an operation on its opposite. -/
def negatedLiteral : Value → Expr
  | .number x => if x < 0.0 then .unary .minus (.literal (.number (-x))) else .literal (.number x)
  | v => .literal v

mutual

/-- The tree with every number below zero as an operation on its opposite. -/
def negated : Expr → Expr
  | .literal v => negatedLiteral v
  | .field name => .field name
  | .call name args => .call name (negatedAll args)
  | .binary op left right => .binary op (negated left) (negated right)
  | .unary op operand => .unary op (negated operand)

/-- A list of trees in this form. -/
def negatedAll : List Expr → List Expr
  | [] => []
  | e :: rest => negated e :: negatedAll rest

end

mutual

/-- The tree has no number below zero. -/
def Unsigned : Expr → Prop
  | .literal (.number x) => ¬ x < 0.0
  | .literal _ => True
  | .field _ => True
  | .call _ args => UnsignedAll args
  | .binary _ left right => Unsigned left ∧ Unsigned right
  | .unary _ operand => Unsigned operand

/-- The trees have no number below zero. -/
def UnsignedAll : List Expr → Prop
  | [] => True
  | e :: rest => Unsigned e ∧ UnsignedAll rest

end

mutual

/-- A tree without numbers below zero stays as it is. -/
theorem negated_of_unsigned : ∀ (t : Expr), Unsigned t → negated t = t
  | .literal v, h => by
    cases v <;> simp_all [negated, negatedLiteral, Unsigned]
  | .field _, _ => rfl
  | .call name args, h => by rw [negated, negatedAll_of_unsigned args h]
  | .binary op left right, h => by
    rw [negated, negated_of_unsigned left h.1, negated_of_unsigned right h.2]
  | .unary op operand, h => by rw [negated, negated_of_unsigned operand h]

/-- Trees without numbers below zero stay as they are. -/
theorem negatedAll_of_unsigned : ∀ (ts : List Expr), UnsignedAll ts → negatedAll ts = ts
  | [], _ => rfl
  | e :: rest, h => by
    rw [negatedAll, negated_of_unsigned e h.1, negatedAll_of_unsigned rest h.2]

end

/-! ### Evaluating -/

section evaluating

variable (registry : Registry) (record : Record)

/-- An operation on the opposite of a number evaluates as the number. -/
theorem evaluate_negatedLiteral (v : Value) :
    evaluate registry record (negatedLiteral v) = evaluate registry record (.literal v) := by
  unfold negatedLiteral
  split
  · split_ifs
    · simp [evaluate, isSpellable, PrefixOperator.apply, Value.toNumber]
    · rfl
  · rfl

mutual

/-- Operations on opposite numbers evaluate as the numbers. -/
theorem evaluate_negated : ∀ t : Expr,
    evaluate registry record (negated t) = evaluate registry record t
  | .literal v => by rw [negated, evaluate_negatedLiteral]
  | .field name => rfl
  | .call name args => by
    simp only [negated, evaluate, evaluateAll_negated args, evaluateAt_negated args]
  | .binary op left right => by
    rw [negated, evaluate, evaluate, evaluate_negated left, evaluate_negated right]
  | .unary op operand => by rw [negated, evaluate, evaluate, evaluate_negated operand]

/-- So do lists of trees. -/
theorem evaluateAll_negated : ∀ ts : List Expr,
    evaluateAll registry record (negatedAll ts) = evaluateAll registry record ts
  | [] => rfl
  | e :: rest => by
    rw [negatedAll, evaluateAll, evaluateAll, evaluate_negated e, evaluateAll_negated rest]

/-- So does the tree at any place of a list. -/
theorem evaluateAt_negated : ∀ (ts : List Expr) (n : Nat),
    evaluateAt registry record n (negatedAll ts) = evaluateAt registry record n ts
  | [], _ => rfl
  | e :: rest, 0 => by rw [negatedAll, evaluateAt, evaluateAt, evaluate_negated e]
  | e :: rest, n + 1 => by rw [negatedAll, evaluateAt, evaluateAt, evaluateAt_negated rest n]

end

end evaluating

/-! ### The tokens of a tree -/

section tokens

/-- The kinds of the tokens of a constant. -/
def literalKinds : Value → List Kind
  | .text s => [.text s]
  | .boolean b => [.word (if b then "true" else "false")]
  | .number x =>
    if x < 0.0 then [.openParen, .operator "-", .number (-x), .closeParen] else [.number x]
  | _ => []

mutual

/-- The kinds of the tokens of a tree. -/
def kinds : Expr → List Kind
  | .literal v => literalKinds v
  | .field name => [.field name]
  | .call name args => .function name :: .openParen :: (separated (kindsAll args) ++ [.closeParen])
  | .binary op left right =>
    .openParen :: ((kinds left ++ .operator op.symbol :: kinds right) ++ [.closeParen])
  | .unary op operand => .operator op.symbol :: kinds operand

/-- The kinds of the tokens of a list of trees, and the trees that they are read as. -/
def kindsAll : List Expr → List (List Kind × Expr)
  | [] => []
  | e :: rest => (kinds e, negated e) :: kindsAll rest

end

/-- The trees that the tokens of a list of trees are read as. -/
theorem map_kindsAll (ts : List Expr) : (kindsAll ts).map Prod.snd = negatedAll ts := by
  induction ts with
  | nil => rfl
  | cons e rest ih => rw [kindsAll, List.map_cons, ih, negatedAll]

/-- Every operator is one of a phrase that is a chain, with its own sign. -/
theorem exists_mem_signs_symbol (op : Operator) :
    ∃ p : Phrase, (op.symbol, op) ∈ p.signs ∧ p.level ≤ 2 :=
  exists_mem_signs (by cases op <;> rfl)

/-- Every prefix operator has its own sign. -/
theorem mem_prefixSigns_symbol (op : PrefixOperator) : (op.symbol, op) ∈ prefixSigns := by
  cases op <;> decide

/-- The tokens of a constant are derived as the constant. -/
theorem derives_literalKinds {v : Value} (h : Printable v) :
    Derives .prefixed (literalKinds v) (negatedLiteral v) := by
  cases v with
  | text s => exact .operand (.text s)
  | boolean b =>
    cases b
    · exact .operand .no
    · exact .operand .yes
  | number x =>
    simp only [literalKinds, negatedLiteral]
    split_ifs
    · have hminus : Derives .prefixed [.operator "-", .number (-x)]
          (.unary .minus (.literal (.number (-x)))) :=
        .signed (mem_prefixSigns_symbol .minus) (.operand (.number (-x)))
      exact .operand (.group (hminus.loosen (by decide)))
    · exact .operand (.number x)
  | _ => exact h.elim

/-- Operands and a sign in parentheses are derived as the operation. -/
theorem Derives.operation {ks ks' : List Kind} {left right : Expr} (op : Operator)
    (hleft : Derives .prefixed ks left) (hright : Derives .prefixed ks' right) :
    Derives .prefixed (.openParen :: ((ks ++ .operator op.symbol :: ks') ++ [.closeParen]))
      (.binary op left right) := by
  obtain ⟨p, hsign, hp⟩ := exists_mem_signs_symbol op
  have hop : p.operand.level ≤ 3 := by cases p <;> simp [Phrase.operand, Phrase.level] at hp ⊢
  have hl := hleft.loosen (p := p) (Nat.le_succ_of_le hp)
  have hr := hright.loosen (p := p.operand) hop
  exact .operand (.group ((Derives.chain hl hsign hr).loosen (Nat.zero_le _)))

mutual

/-- **The tokens of a tree are derived as the tree.** -/
theorem derives_kinds : ∀ t : Expr, WellFormed t → Derives .prefixed (kinds t) (negated t)
  | .literal v, h => derives_literalKinds h
  | .field name, _ => .operand (.field name)
  | .call name args, h => by
    rw [kinds, negated, ← map_kindsAll]
    exact .operand (.call name (kindsAll args) (derives_kindsAll args h.2))
  | .binary op left right, h => (derives_kinds left h.1).operation op (derives_kinds right h.2)
  | .unary op operand, h => .signed (mem_prefixSigns_symbol op) (derives_kinds operand h)

/-- The tokens of a list of trees are derived as the trees. -/
theorem derives_kindsAll : ∀ ts : List Expr, WellFormedAll ts →
    ∀ a ∈ kindsAll ts, Derives .comparison a.1 a.2
  | [], _, a, ha => nomatch ha
  | e :: rest, h, a, ha => by
    rw [kindsAll, List.mem_cons] at ha
    rcases ha with rfl | ha
    · exact (derives_kinds e h.1).loosen (by decide)
    · exact derives_kindsAll rest h.2 a ha

end

end tokens

/-! ### The text of a tree -/

section texts

variable {rest : List Char} {x : Float}

/-- A finite number without a minus sign is displayed in plain digits. -/
theorem display_number (hfin : Number.isFinite x = true) (hneg : Number.isNegative x = false) :
    Value.display (.number x) = Decimal.plain x := by
  have hnan : Number.isNaN x = false := Number.isNaN_of_isFinite hfin
  rw [Value.display, Value.toText, Value.numberText, hnan, hfin, Decimal.plain_eq hfin hneg]
  · cases x == 0.0 <;> rfl
  · exact fun h => nomatch h

/-- A number in plain digits is scanned as the number. -/
theorem spells_plain (hfin : Number.isFinite x = true) (hneg : Number.isNegative x = false)
    (hr : Delimited rest) : Spells (Decimal.plain x).toList [.number x] rest := by
  obtain ⟨whole, fraction, hspell, hw, hd, hread⟩ := Decimal.read?_plain hfin hneg
  obtain ⟨c, cs, rfl⟩ := List.exists_cons_of_ne_nil hw
  have hc : Decimal.pointed (c :: cs) fraction = c :: Decimal.pointed cs fraction := rfl
  rw [hspell, hc] at hread ⊢
  refine Token.spells_number (hd c (by simp)) (fun d hmem => ?_) hread hr
  have hdigit : Decimal.isDigit d = true ∨ d = '.' := by
    simp only [Decimal.pointed, List.mem_append] at hmem
    rcases hmem with h | h
    · exact .inl (hd d (by simp [h]))
    · split_ifs at h
      · cases h
      · rcases List.mem_cons.mp h with h | h
        · exact .inr h
        · exact .inl (hd d (by simp [h]))
  rcases hdigit with h | rfl
  · simp [Token.isNumberPart, h]
  · rfl

/-- The characters do not start with an equals sign, which would belong to a sign before them. -/
def StartsOperand (cs : List Char) : Prop := ∃ c tail, cs = c :: tail ∧ c ≠ '='

/-- What follows the start of an operand does not matter. -/
theorem StartsOperand.append {cs : List Char} (h : StartsOperand cs) (rest tail : List Char) :
    cs ++ rest ≠ '=' :: tail := by
  obtain ⟨c, cs', rfl, hc⟩ := h
  intro heq
  injection heq with heq
  exact hc heq

/-- A number starts an operand. -/
theorem startsOperand_plain (hfin : Number.isFinite x = true) (hneg : Number.isNegative x = false) :
    StartsOperand (Decimal.plain x).toList := by
  obtain ⟨whole, fraction, hspell, hw, hd, -⟩ := Decimal.read?_plain hfin hneg
  obtain ⟨c, cs, rfl⟩ := List.exists_cons_of_ne_nil hw
  refine ⟨c, _, hspell, ?_⟩
  rintro rfl
  exact absurd (hd '=' (by simp)) (by decide)

/-- The name of a call is a word. -/
theorem isCallName_iff {name : String} :
    isCallName name = true ↔ ∃ c cs, name.toList = c :: cs ∧ Token.isWordStart c = true ∧
      ∀ d ∈ cs, Token.isWordPart d = true := by
  unfold isCallName
  cases name.toList with
  | nil => simp
  | cons c cs => simp

/-- The text of a tree starts an operand, if a formula can spell what its root says. -/
theorem startsOperand_text {t : Expr} (hliteral : ∀ v, t = .literal v → Printable v)
    (hcall : ∀ name args, t = .call name args → isCallName name = true) :
    StartsOperand t.text.toList := by
  cases t with
  | literal v =>
    have h := hliteral v rfl
    cases v with
    | text s =>
      refine ⟨'"', s.toList.flatMap escape ++ ['"'], ?_, by decide⟩
      simp [text, literalText, quote]
    | boolean b => cases b <;> exact ⟨_, _, rfl, by decide⟩
    | number x =>
      obtain ⟨hfin, hzero⟩ := h
      simp only [text, literalText]
      split_ifs with hlt
      · exact ⟨'(', '-' :: ((Decimal.plain (-x)).toList ++ [')']), by simp, by decide⟩
      · have hneg := Number.isNegative_of_not_lt hfin hzero hlt
        rw [display_number hfin hneg]
        exact startsOperand_plain hfin hneg
    | _ => exact h.elim
  | field name => exact ⟨'[', name.toList ++ [']'], by simp [text], by decide⟩
  | call name args =>
    obtain ⟨c, cs, hname, hc, -⟩ := isCallName_iff.mp (hcall name args rfl)
    refine ⟨c, cs ++ (['('] ++ ((", ".intercalate (texts args)).toList ++ [')'])), ?_, ?_⟩
    · simp [text, hname]
    · rintro rfl
      exact absurd hc (by decide)
  | binary op left right =>
    exact ⟨'(', left.text.toList ++ ([' '] ++ (op.symbol.toList ++ ([' '] ++ (right.text.toList ++
      [')'])))), by simp [text], by decide⟩
  | unary op operand =>
    cases op
    · exact ⟨'+', operand.text.toList, by simp [text, PrefixOperator.symbol], by decide⟩
    · exact ⟨'-', operand.text.toList, by simp [text, PrefixOperator.symbol], by decide⟩
    · exact ⟨'!', operand.text.toList, by simp [text, PrefixOperator.symbol], by decide⟩

/-- The text of a well-formed tree starts an operand. -/
theorem WellFormed.startsOperand {t : Expr} (h : WellFormed t) : StartsOperand t.text.toList := by
  refine startsOperand_text ?_ ?_
  · rintro v rfl
    exact h
  · rintro name args rfl
    exact h.1

/-- A closing parenthesis ends numbers and words. -/
theorem delimited_closeParen (rest : List Char) : Delimited (')' :: rest) := by
  constructor <;>
    simp [Token.isWordPart, Token.isNumberPart, Decimal.isDigit, Text.trimStart, isBlank]

/-- A comma ends numbers and words. -/
theorem delimited_comma (rest : List Char) : Delimited (',' :: rest) := by
  constructor <;>
    simp [Token.isWordPart, Token.isNumberPart, Decimal.isDigit, Text.trimStart, isBlank]

/-- A blank and an operator end numbers and words. -/
theorem delimited_operator (op : Operator) : Delimited (' ' :: (op.symbol.toList ++ rest)) := by
  constructor
  · simp [Token.isWordPart]
  · simp [Token.isNumberPart, Decimal.isDigit]
  · cases op <;> simp [Text.trimStart, isBlank, Operator.symbol]

/-- The end of the text ends numbers and words. -/
theorem delimited_nil : Delimited [] := by constructor <;> simp [Text.trimStart]

/-- The text of a constant is scanned as its tokens. -/
theorem spells_literalText {v : Value} (h : Printable v) (hr : Delimited rest) :
    Spells (literalText v).toList (literalKinds v) rest := by
  cases v with
  | text s => exact Token.spells_quote s
  | boolean b =>
    cases b
    · have hfalse : ∀ c ∈ ['a', 'l', 's', 'e'], Token.isWordPart c = true :=
        List.all_eq_true.mp rfl
      exact Token.spells_word (c := 'f') (by decide) hfalse hr
    · have htrue : ∀ c ∈ ['r', 'u', 'e'], Token.isWordPart c = true :=
        List.all_eq_true.mp rfl
      exact Token.spells_word (c := 't') (by decide) htrue hr
  | number x =>
    obtain ⟨hfin, hzero⟩ := h
    simp only [literalText, literalKinds]
    split_ifs with hlt
    · obtain ⟨hfin', hneg'⟩ := Number.isNegative_neg hfin hlt
      have hsign := (startsOperand_plain hfin' hneg').append ([')'] ++ rest)
      have htext : ("(-" ++ Decimal.plain (-x) ++ ")").toList =
          ['('] ++ (['-'] ++ ((Decimal.plain (-x)).toList ++ [')'])) := by simp
      rw [htext]
      have hminus : Spells ['-'] [.operator "-"]
          (((Decimal.plain (-x)).toList ++ [')']) ++ rest) :=
        Token.spells_prefixOperator .minus (by simpa using hsign)
      have hplain := spells_plain hfin' hneg' (delimited_closeParen rest)
      exact Token.spells_openParen.append
        (hminus.append (hplain.append Token.spells_closeParen))
    · have hneg := Number.isNegative_of_not_lt hfin hzero hlt
      rw [display_number hfin hneg]
      exact spells_plain hfin hneg hr
  | _ => exact h.elim

/-- The characters of a call. -/
theorem toList_text_call (name : String) (args : List Expr) :
    (call name args).text.toList =
      name.toList ++ (['('] ++ ((", ".intercalate (texts args)).toList ++ [')'])) := by
  simp [text]

/-- The characters of an operation. -/
theorem toList_text_binary (op : Operator) (left right : Expr) :
    (binary op left right).text.toList =
      ['('] ++ ((left.text.toList ++ ([' '] ++ (op.symbol.toList ++ ([' '] ++
        right.text.toList)))) ++ [')']) := by
  simp [text]

/-- The characters of an operation on one operand. -/
theorem toList_text_unary (op : PrefixOperator) (operand : Expr) :
    (unary op operand).text.toList = op.symbol.toList ++ operand.text.toList := by
  simp [text]

/-- Characters are scanned as tokens of the kinds in any text that goes on with the end of numbers
and words. -/
def SpellsAnywhere (cs : List Char) (ks : List Kind) : Prop :=
  ∀ rest, Delimited rest → Spells cs ks rest

section nodes

variable {cs left right : List Char} {ks ks' : List Kind}

/-- A call is scanned as its name and its arguments in parentheses. -/
theorem spells_call {name : String} (hname : isCallName name = true)
    (hargs : Spells cs ks (')' :: rest)) :
    Spells (name.toList ++ (['('] ++ (cs ++ [')'])))
      (.function name :: .openParen :: (ks ++ [.closeParen])) rest := by
  obtain ⟨c, tail, hchars, hc, htail⟩ := isCallName_iff.mp hname
  have hkind : Kind.function name = .function (String.ofList (c :: tail)) := by
    rw [← hchars, String.ofList_toList]
  rw [hchars, hkind]
  exact (Token.spells_function hc htail).append
    (Token.spells_openParen.append (hargs.append Token.spells_closeParen))

/-- An operation is scanned as its operands and its sign in parentheses. -/
theorem spells_operation (op : Operator) (hleft : SpellsAnywhere left ks)
    (hright : SpellsAnywhere right ks') :
    Spells (['('] ++ ((left ++ ([' '] ++ (op.symbol.toList ++ ([' '] ++ right)))) ++ [')']))
      (.openParen :: ((ks ++ .operator op.symbol :: ks') ++ [.closeParen])) rest := by
  have hblank : ∀ rest, Spells [' '] [] rest := fun _ => Token.spells_blank rfl
  have hoperand := (hblank _).append (hright _ (delimited_closeParen rest))
  have hsign := (hblank _).append ((Token.spells_operator op (by simp)).append hoperand)
  have hchain := (hleft _ (by simpa using delimited_operator op)).append hsign
  exact Token.spells_openParen.append (hchain.append Token.spells_closeParen)

/-- A sign in front of an operand is scanned as the sign and the operand. -/
theorem spells_signed (op : PrefixOperator) (hstart : StartsOperand cs) (h : Spells cs ks rest) :
    Spells (op.symbol.toList ++ cs) (.operator op.symbol :: ks) rest :=
  (Token.spells_prefixOperator op (hstart.append rest)).append h

/-- Texts with commas between them are scanned as their tokens with commas between them. -/
theorem spells_separated {texts : List String} {args : List (List Kind × Expr)}
    (h : List.Forall₂ (fun s a => SpellsAnywhere s.toList a.1) texts args) :
    Spells (", ".intercalate texts).toList (separated args) (')' :: rest) := by
  induction h with
  | nil => simpa [separated] using Token.Spells.nil (')' :: rest)
  | @cons s a texts args hs hrest ih =>
    cases hrest with
    | nil => simpa [separated] using hs _ (delimited_closeParen rest)
    | @cons s' a' texts args hs' hrest =>
      have htext : (", ".intercalate (s :: s' :: texts)).toList =
          s.toList ++ ([','] ++ ([' '] ++ (", ".intercalate (s' :: texts)).toList)) := by
        simp
      have hkinds : separated (a :: a' :: args) =
          a.1 ++ ([.comma] ++ ([] ++ separated (a' :: args))) := by
        simp [separated]
      have htail := (Token.spells_blank (c := ' ') rfl).append ih
      rw [htext, hkinds]
      exact (hs _ (by simpa using delimited_comma _)).append (Token.spells_comma.append htail)

end nodes

mutual

/-- **The text of a tree is scanned as its tokens**, inside any text that ends numbers and words. -/
theorem spells_text : ∀ t : Expr, WellFormed t → SpellsAnywhere t.text.toList t.kinds
  | .literal v, h => fun rest hr => spells_literalText h hr
  | .field name, h => fun rest _ => Token.spells_field h
  | .call name args, h => by
    intro rest _
    rw [toList_text_call, kinds]
    exact spells_call h.1 (spells_separated (spells_texts args h.2))
  | .binary op left right, h => by
    intro rest _
    rw [toList_text_binary, kinds]
    exact spells_operation op (spells_text left h.1) (spells_text right h.2)
  | .unary op operand, h => by
    intro rest hr
    rw [toList_text_unary, kinds]
    have hstart : StartsOperand operand.text.toList := WellFormed.startsOperand h
    exact spells_signed op hstart (spells_text operand h rest hr)

/-- The texts of a list of trees are scanned as their tokens. -/
theorem spells_texts : ∀ ts : List Expr, WellFormedAll ts →
    List.Forall₂ (fun s a => SpellsAnywhere s.toList a.1) (texts ts) (kindsAll ts)
  | [], _ => .nil
  | e :: rest, h => .cons (spells_text e h.1) (spells_texts rest h.2)

end

/-- A text that is scanned as the tokens of a tree is read as the tree. -/
theorem ofText_of_spells {s : String} {ks : List Kind} {t : Expr} (hs : SpellsAnywhere s.toList ks)
    (hd : Derives .comparison ks t) : ofText s = .ok t := by
  obtain ⟨ts, position, rfl, hscan⟩ := hs [] delimited_nil 0
  have htokens : Token.scan s = .ok (ts ++ [⟨.finish, position⟩]) := by
    rw [Token.scan, ← List.append_nil s.toList, hscan, Token.scanFrom]
    rfl
  have hno : ∀ token ∈ ts, token.kind ≠ .finish := fun token ht hfin =>
    hd.finish_notMem (hfin ▸ List.mem_map_of_mem ht)
  have hread : ofTokens (ts ++ [⟨.finish, position⟩]) = .ok t := hd.ofTokens hno (by simp)
  rw [ofText, htokens]
  simp only [hread]

/-- **Printing, then parsing.** The text of a tree is read as the tree with operations in the place
of numbers below zero, and that is the tree itself if there are none; and the two trees evaluate to
the same result, with the same requests, whatever the registry, the record, the provider and the
cache. -/
theorem ofText_text (t : Expr) (h : t.WellFormed) :
    ofText t.text = .ok t.negated ∧
      (t.Unsigned → ofText t.text = .ok t) ∧
      ∀ registry record, evaluate registry record t.negated = evaluate registry record t := by
  have hd : Derives .comparison t.kinds t.negated := (derives_kinds t h).loosen (by decide)
  have hok : ofText t.text = .ok t.negated := ofText_of_spells (spells_text t h) hd
  refine ⟨hok, fun hu => ?_, fun registry record => evaluate_negated registry record t⟩
  rw [hok, negated_of_unsigned t hu]

/-- A call with a field, a number below zero, a sign in front of an operand and a quoted text. -/
theorem ofText_text_call :
    let t : Expr := .call "IF" [.binary .lessOrEqual (.field "a b") (.literal (.number (-2.5))),
      .unary .not (.literal (.boolean true)), .literal (.text "x\"")]
    let t' : Expr := .call "IF" [.binary .lessOrEqual (.field "a b")
      (.unary .minus (.literal (.number 2.5))), .unary .not (.literal (.boolean true)),
      .literal (.text "x\"")]
    t.WellFormed ∧ t'.Unsigned ∧ ofText t.text = .ok t' ∧ ofText t'.text = .ok t' := by
  intro t t'
  have hlt : (-2.5 : Float) < 0.0 := by decide +kernel
  have hlt' : ¬ (2.5 : Float) < 0.0 := by decide +kernel
  have hnumber : Printable (.number (-2.5)) := ⟨by decide +kernel, by decide +kernel⟩
  have hnumber' : Printable (.number 2.5) := ⟨by decide +kernel, by decide +kernel⟩
  have hfield : ']' ∉ "a b".toList := by decide
  have h : t.WellFormed := ⟨by decide, ⟨hfield, hnumber⟩, trivial, trivial, trivial⟩
  have h' : t'.WellFormed := ⟨by decide, ⟨hfield, hnumber'⟩, trivial, trivial, trivial⟩
  have hu : t'.Unsigned := ⟨⟨trivial, hlt'⟩, trivial, trivial, trivial⟩
  have hneg : t.negated = t' := by
    simp [t, t', negated, negatedAll, negatedLiteral, hlt]
  exact ⟨h, hu, hneg ▸ (ofText_text t h).1, (ofText_text t' h').2.1 hu⟩

end texts

end Expr

end RecordFormula
