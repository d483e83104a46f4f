import RecordFormula.Proofs.Decimal.Unsigned
import RecordFormula.Proofs.Syntax.Nodes
import RecordFormula.Proofs.Syntax.Printing

/-!
# What a formula text can say

The trees that a formula text can have. The scanner makes tokens of a few forms only, the parser
puts nothing into a tree but what the tokens say, and so every constant, field name and call name of
a tree that has been read has one of these forms.

* `Token.Kind.Legible` — the kinds that the scanner makes; **it makes no others**
  (`Token.legible_of_scan`).
* `Expr.Legible` — the trees that say no more than such tokens.
* `Expr.Derives.legible` — what legible tokens are derived as is legible.
* **Every tree that is read is legible** (`Expr.legible_of_ofText`), and so its constants can be
  evaluated (`Expr.Legible.isSpellable`).
-/

namespace RecordFormula

/-! ### Tokens -/

namespace Token

/-- A kind that the scanner can make of a text, short of the end of the formula. -/
def Kind.Legible : Kind → Prop
  | .number x => Number.Unsigned x
  | .field name => ']' ∉ name.toList
  | .function name => Expr.isCallName name = true
  | .finish => False
  | _ => True

variable {c : Char} {rest : List Char} {position n : Nat} {kind : Kind}

/-- A field name ends at the first closing bracket. -/
theorem legible_of_fieldAt (h : fieldAt rest position = .ok (kind, n)) : kind.Legible := by
  unfold fieldAt at h
  dsimp only at h
  split_ifs at h
  cases h
  intro hmem
  rw [String.toList_ofList] at hmem
  have hbracket := List.mem_takeWhile_imp hmem
  simp at hbracket

/-- A number has no sign. -/
theorem legible_of_numberAt (hc : Decimal.isDigit c = true)
    (h : numberAt c rest position = .ok (kind, n)) : kind.Legible := by
  unfold numberAt at h
  dsimp only at h
  split at h
  · next x hread =>
    cases h
    exact Decimal.unsigned_of_read? hc hread
  · cases h

/-- A word in front of a parenthesis is the name of a call. -/
theorem legible_wordAt (hc : isWordStart c = true) (rest : List Char) :
    (wordAt c rest).1.Legible := by
  unfold wordAt
  dsimp only
  split
  · refine Expr.isCallName_iff.mpr ⟨c, rest.takeWhile isWordPart, String.toList_ofList, hc, ?_⟩
    exact fun d hd => List.mem_takeWhile_imp hd
  · trivial

/-- A sign is no name. -/
theorem legible_operatorAt (c : Char) (rest : List Char) : (operatorAt c rest).1.Legible := by
  unfold operatorAt
  split <;> trivial

/-- Every token that is read off the front is legible. -/
theorem legible_of_lexeme (h : lexeme c rest position = .ok (kind, n)) : kind.Legible := by
  unfold lexeme at h
  split_ifs at h with _ _ _ _ _ _ hdigit hword
  · cases h
    trivial
  · cases h
    trivial
  · cases h
    trivial
  · obtain rfl : (operatorAt c rest).1 = kind := congrArg Prod.fst (Except.ok.inj h)
    exact legible_operatorAt c rest
  · unfold textAt at h
    split at h
    · cases h
      trivial
    · cases h
  · exact legible_of_fieldAt h
  · exact legible_of_numberAt hdigit h
  · obtain rfl : (wordAt c rest).1 = kind := congrArg Prod.fst (Except.ok.inj h)
    exact legible_wordAt hword rest

/-- The scanner makes legible tokens and then says where the formula ends. -/
theorem legible_of_scanFrom {cs : List Char} {tokens : List Token}
    (h : scanFrom position cs = .ok tokens) :
    ∃ ts p, tokens = ts ++ [⟨.finish, p⟩] ∧ ∀ t ∈ ts, t.kind.Legible := by
  induction position, cs using scanFrom.induct generalizing tokens with
  | case1 position =>
    rw [scanFrom] at h
    cases h
    exact ⟨[], position, rfl, by simp⟩
  | case2 position c rest hblank ih =>
    rw [scanFrom, if_pos hblank] at h
    exact ih h
  | case3 position c rest hblank e hlexeme =>
    rw [scanFrom, if_neg hblank, hlexeme] at h
    cases h
  | case4 position c rest hblank kind n hlexeme ih =>
    rw [scanFrom, if_neg hblank, hlexeme] at h
    dsimp only at h
    cases hscan : scanFrom (position + 1 + n) (rest.drop n) with
    | error e =>
      rw [hscan] at h
      cases h
    | ok ts' =>
    rw [hscan] at h
    obtain rfl := Except.ok.inj h
    obtain ⟨ts, p, rfl, hts⟩ := ih hscan
    refine ⟨⟨kind, position⟩ :: ts, p, rfl, ?_⟩
    intro t ht
    rcases List.mem_cons.mp ht with rfl | ht
    · exact legible_of_lexeme hlexeme
    · exact hts t ht

/-- **The tokens of a text are legible**, the end of the formula apart. -/
theorem legible_of_scan {formula : String} {tokens : List Token}
    (h : scan formula = .ok tokens) :
    ∃ ts p, tokens = ts ++ [⟨.finish, p⟩] ∧ ∀ t ∈ ts, t.kind.Legible :=
  legible_of_scanFrom h

end Token

/-! ### Trees -/

namespace Expr

open Token (Kind)

/-- What the root of a tree itself says is what a token can say. -/
def LegibleRoot : Expr → Prop
  | .literal (.number x) => Number.Unsigned x
  | .literal v => isSpellable v = true
  | .field name => ']' ∉ name.toList
  | .call name _ => isCallName name = true
  | _ => True

/-- Every node says what a token can say. -/
def Legible (t : Expr) : Prop := ∀ n ∈ t.nodes, n.LegibleRoot

section trees

variable {v : Value} {name : String} {args : List Expr} {left right operand : Expr}

/-- A constant is legible if it is itself. -/
@[simp] theorem legible_literal : (literal v).Legible ↔ (literal v).LegibleRoot := by
  simp [Legible, nodes]

/-- A field is legible if its name is. -/
@[simp] theorem legible_field : (field name).Legible ↔ ']' ∉ name.toList := by
  simp [Legible, nodes, LegibleRoot]

/-- A call is legible if its name and its arguments are. -/
@[simp] theorem legible_call :
    (call name args).Legible ↔ isCallName name = true ∧ ∀ a ∈ args, a.Legible := by
  simp only [Legible, nodes, List.mem_cons, forall_eq_or_imp, mem_nodesOf, LegibleRoot]
  refine and_congr_right fun _ => ?_
  constructor
  · intro h a ha n hn
    exact h n ⟨a, ha, hn⟩
  · rintro h n ⟨a, ha, hn⟩
    exact h a ha n hn

/-- An operation is legible if its operands are. -/
@[simp] theorem legible_binary (op : Operator) :
    (binary op left right).Legible ↔ left.Legible ∧ right.Legible := by
  have hroot : (binary op left right).LegibleRoot := trivial
  simp [Legible, nodes, hroot, or_imp, forall_and]

/-- An operation on one operand is legible if the operand is. -/
@[simp] theorem legible_unary (op : PrefixOperator) :
    (unary op operand).Legible ↔ operand.Legible := by
  simp [Legible, nodes, LegibleRoot]

/-- The constants of a legible tree can be evaluated. -/
theorem Legible.isSpellable {t : Expr} (h : t.Legible) (hv : literal v ∈ t.nodes) :
    isSpellable v = true := by
  have hroot := h _ hv
  cases v <;> first | rfl | exact hroot

end trees

/-! ### Reading -/

section reading

/-- What belongs to an argument stands between commas. -/
theorem mem_separated_of_mem {args : List (List Kind × Expr)} {a : List Kind × Expr} {k : Kind}
    (ha : a ∈ args) (hk : k ∈ a.1) : k ∈ separated args := by
  induction args with
  | nil => cases ha
  | cons b rest ih =>
    cases rest with
    | nil =>
      obtain rfl := List.mem_singleton.mp ha
      simpa [separated] using hk
    | cons c rest =>
      have hsplit : separated (b :: c :: rest) = b.1 ++ [.comma] ++ separated (c :: rest) := by
        simp [separated]
      rw [hsplit, List.mem_append, List.mem_append]
      rcases List.mem_cons.mp ha with rfl | ha
      · exact .inl (.inl hk)
      · exact .inr (ih ha)

/-- What legible tokens are derived as is legible. -/
theorem Derives.legible {p : Phrase} {ks : List Kind} {t : Expr} (h : Derives p ks t)
    (hks : ∀ k ∈ ks, k.Legible) : t.Legible := by
  induction h with
  | operand _ ih => exact ih hks
  | chain _ _ _ ihl ihr =>
    refine (legible_binary _).mpr ⟨ihl fun k hk => ?_, ihr fun k hk => ?_⟩
    · exact hks k (by simp [hk])
    · exact hks k (by simp [hk])
  | signed _ _ ih => exact (legible_unary _).mpr (ih fun k hk => hks k (by simp [hk]))
  | number x => exact legible_literal.mpr (hks (.number x) (by simp))
  | text s => exact legible_literal.mpr rfl
  | yes => exact legible_literal.mpr rfl
  | no => exact legible_literal.mpr rfl
  | word _ _ => exact legible_literal.mpr rfl
  | field name => exact legible_field.mpr (hks (.field name) (by simp))
  | group _ ih => exact ih fun k hk => hks k (by simp [hk])
  | call name args _ ih =>
    refine legible_call.mpr ⟨hks (.function name) (by simp), ?_⟩
    intro t ht
    obtain ⟨a, ha, rfl⟩ := List.mem_map.mp ht
    refine ih a ha fun k hk => hks k ?_
    simp [mem_separated_of_mem ha hk]

/-- **Every tree that is read from a text is legible.** -/
theorem legible_of_ofText {formula : String} {t : Expr} (h : ofText formula = .ok t) :
    t.Legible := by
  unfold ofText at h
  split at h
  · cases h
  · next tokens hscan =>
    split at h
    · cases h
    · next tree htree =>
      cases h
      obtain ⟨ts, p, rfl, hts⟩ := Token.legible_of_scan hscan
      have hno : ∀ token ∈ ts, token.kind ≠ .finish := by
        intro token ht heq
        have hlegible := hts token ht
        rw [heq] at hlegible
        exact hlegible
      have hd := derives_of_ofTokens htree hno (by simp)
      refine hd.legible fun k hk => ?_
      obtain ⟨token, ht, rfl⟩ := List.mem_map.mp hk
      exact hts token ht

end reading

end Expr

end RecordFormula
