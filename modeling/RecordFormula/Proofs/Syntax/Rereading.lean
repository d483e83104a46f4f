import RecordFormula.Proofs.Syntax.Legible

/-!
# Parsing, printing and parsing again

A formula text is read as a tree, and the canonical text of the tree is read again. The second tree
is the first, unless a number of the formula has so many digits that it is infinite: infinity is
written as a word, and a word is read as a text.

* `Expr.reread` — the tree with every infinite number as the text that it is written as.
* **The canonical text of a tree that has been read** is read as this tree
  (`ofText_text_of_legible`).
* **A formula survives printing exactly if its numbers are finite** (`ofText_text_of_ofText`), which
  not all are (`ofText_text_of_ofText_infinity`).
-/

namespace RecordFormula

namespace Expr

open Token (Kind Spells Delimited)

/-! ### What is read again -/

/-- A constant as it is read again. -/
def rereadLiteral : Value → Expr
  | .number x =>
    if Number.isFinite x then .literal (.number x)
    else .literal (.text (Value.display (.number x)))
  | v => .literal v

mutual

/-- The tree that the canonical text of a tree without signed numbers is read as. -/
def reread : Expr → Expr
  | .literal v => rereadLiteral v
  | .field name => .field name
  | .call name args => .call name (rereadAll args)
  | .binary op left right => .binary op (reread left) (reread right)
  | .unary op operand => .unary op (reread operand)

/-- The trees of a list as they are read again. -/
def rereadAll : List Expr → List Expr
  | [] => []
  | e :: rest => reread e :: rereadAll rest

end

/-- The trees of a list are read again one by one. -/
theorem rereadAll_eq_map (args : List Expr) : rereadAll args = args.map reread := by
  induction args with
  | nil => rfl
  | cons e rest ih => rw [rereadAll, List.map_cons, ih]

/-- A tree is read again as itself exactly if its numbers are finite. -/
theorem reread_eq_self_iff (t : Expr) :
    t.reread = t ↔ ∀ x, .literal (.number x) ∈ t.nodes → Number.isFinite x = true := by
  induction t using induct with
  | literal v =>
    cases v with
    | number x =>
      cases hx : Number.isFinite x <;> simp [reread, rereadLiteral, nodes, hx]
    | _ => simp [reread, rereadLiteral, nodes]
  | field name => simp [reread, nodes]
  | call name args ih =>
    have hargs : rereadAll args = args ↔ ∀ a ∈ args, a.reread = a := by
      rw [rereadAll_eq_map]
      conv_lhs => rhs; rw [← List.map_id args]
      exact List.map_inj_left
    simp only [reread, nodes, call.injEq, true_and, hargs, List.mem_cons, mem_nodesOf, reduceCtorEq,
      false_or]
    constructor
    · rintro h x ⟨a, ha, hx⟩
      exact (ih a ha).mp (h a ha) x hx
    · intro h a ha
      exact (ih a ha).mpr fun x hx => h x ⟨a, ha, hx⟩
  | binary op left right ihl ihr =>
    simp only [reread, nodes, binary.injEq, true_and, ihl, ihr, List.mem_cons, List.mem_append,
      reduceCtorEq, false_or, or_imp, forall_and]
  | unary op operand ih =>
    simp only [reread, nodes, unary.injEq, true_and, ih, List.mem_cons, reduceCtorEq, false_or]

/-! ### Reading again -/

section rereading

variable {v : Value} {t : Expr} {args : List Expr}

/-- A constant that has been read is unsigned, and can be printed if it is not infinite. -/
theorem printable_of_legible (h : (literal v).Legible) (hv : v ≠ .number Number.infinity) :
    Printable v ∧ negatedLiteral v = .literal v ∧ rereadLiteral v = .literal v := by
  rw [legible_literal] at h
  cases v with
  | number x =>
    have hunsigned : Number.Unsigned x := h
    have hfin : Number.isFinite x = true := by
      by_contra hinf
      rw [Bool.not_eq_true] at hinf
      exact hv (by rw [hunsigned.eq_infinity hinf])
    refine ⟨⟨hfin, hunsigned.ne_negativeZero⟩, ?_, ?_⟩
    · exact if_neg hunsigned.not_lt_zero
    · exact if_pos hfin
  | text s => exact ⟨trivial, rfl, rfl⟩
  | boolean b => exact ⟨trivial, rfl, rfl⟩
  | null => cases h
  | array items => cases h
  | object members => cases h

/-- Infinity is written as a word. -/
theorem text_infinity : (literal (.number Number.infinity)).text = "Infinity" := rfl

/-- It is read again as the text of this word. -/
theorem reread_infinity :
    (literal (.number Number.infinity)).reread = .literal (.text "Infinity") := rfl

/-- The text of a tree that has been read starts an operand. -/
theorem Legible.startsOperand (h : t.Legible) : StartsOperand t.text.toList := by
  by_cases hinf : t = .literal (.number Number.infinity)
  · rw [hinf, text_infinity]
    exact ⟨'I', "nfinity".toList, rfl, by decide⟩
  · refine startsOperand_text ?_ ?_
    · rintro v rfl
      exact (printable_of_legible h fun hv => hinf (by rw [hv])).1
    · rintro name args rfl
      exact (legible_call.mp h).1

/-- The text of a tree is scanned as tokens that are derived as it is read again. -/
def Rereads (t : Expr) : Prop :=
  ∃ ks, Derives .prefixed ks t.reread ∧ SpellsAnywhere t.text.toList ks

/-- A constant that has been read is read again. -/
theorem rereads_literal (h : (literal v).Legible) : (literal v).Rereads := by
  by_cases hv : v = .number Number.infinity
  · subst hv
    refine ⟨[.word "Infinity"], ?_, fun rest hr => ?_⟩
    · rw [reread_infinity]
      exact .operand (.word (by decide) (by decide))
    · rw [text_infinity]
      have htail : ∀ c ∈ ['n', 'f', 'i', 'n', 'i', 't', 'y'], Token.isWordPart c = true :=
        List.all_eq_true.mp rfl
      exact Token.spells_word (c := 'I') (by decide) htail hr
  · obtain ⟨hprintable, hnegated, hreread⟩ := printable_of_legible h hv
    refine ⟨literalKinds v, ?_, fun rest hr => spells_literalText hprintable hr⟩
    rw [reread, hreread, ← hnegated]
    exact derives_literalKinds hprintable

/-- Arguments that are read again one by one are read again together. -/
theorem exists_separated (h : ∀ a ∈ args, a.Rereads) :
    ∃ pieces : List (List Kind × Expr), pieces.map Prod.snd = rereadAll args ∧
      (∀ p ∈ pieces, Derives .comparison p.1 p.2) ∧
      List.Forall₂ (fun s p => SpellsAnywhere s.toList p.1) (texts args) pieces := by
  induction args with
  | nil => exact ⟨[], rfl, by simp, .nil⟩
  | cons e rest ih =>
    obtain ⟨ks, hd, hs⟩ := h e (by simp)
    obtain ⟨pieces, hsnd, hderives, hspells⟩ := ih fun a ha => h a (List.mem_cons_of_mem e ha)
    refine ⟨(ks, e.reread) :: pieces, ?_, ?_, .cons hs hspells⟩
    · rw [List.map_cons, hsnd, rereadAll]
    · intro p hp
      rcases List.mem_cons.mp hp with rfl | hp
      · exact hd.loosen (by decide)
      · exact hderives p hp

/-- Every tree that has been read is read again. -/
theorem Legible.rereads (h : t.Legible) : t.Rereads := by
  induction t using induct with
  | literal v => exact rereads_literal h
  | field name =>
    rw [legible_field] at h
    exact ⟨[.field name], .operand (.field name), fun rest _ => Token.spells_field h⟩
  | call name args ih =>
    obtain ⟨hname, hargs⟩ := legible_call.mp h
    obtain ⟨pieces, hsnd, hderives, hspells⟩ := exists_separated fun a ha => ih a ha (hargs a ha)
    refine ⟨.function name :: .openParen :: (separated pieces ++ [.closeParen]), ?_, ?_⟩
    · rw [reread, ← hsnd]
      exact .operand (.call name pieces hderives)
    · intro rest _
      rw [toList_text_call]
      exact spells_call hname (spells_separated hspells)
  | binary op left right ihl ihr =>
    obtain ⟨hleft, hright⟩ := (legible_binary op).mp h
    obtain ⟨ks, hd, hs⟩ := ihl hleft
    obtain ⟨ks', hd', hs'⟩ := ihr hright
    refine ⟨.openParen :: ((ks ++ .operator op.symbol :: ks') ++ [.closeParen]),
      hd.operation op hd', ?_⟩
    intro rest _
    rw [toList_text_binary]
    exact spells_operation op hs hs'
  | unary op operand ih =>
    have hoperand := (legible_unary op).mp h
    obtain ⟨ks, hd, hs⟩ := ih hoperand
    refine ⟨.operator op.symbol :: ks, .signed (mem_prefixSigns_symbol op) hd, ?_⟩
    intro rest hr
    rw [toList_text_unary]
    exact spells_signed op hoperand.startsOperand (hs rest hr)

/-- **The canonical text of a tree that has been read** is read as the tree with every infinite
number as a text. -/
theorem ofText_text_of_legible (h : t.Legible) : ofText t.text = .ok t.reread := by
  obtain ⟨ks, hd, hs⟩ := h.rereads
  exact ofText_of_spells hs (hd.loosen (by decide))

end rereading

/-! ### Formulas -/

/-- **A formula survives printing exactly if its numbers are finite.** The canonical text of the
tree of a formula is always a formula; it is read as the same tree if and only if no number of the
formula has so many digits that it is infinite. An infinite number comes back as a text. -/
theorem ofText_text_of_ofText {formula : String} {t : Expr} (h : ofText formula = .ok t) :
    ofText t.text = .ok t.reread ∧
      (ofText t.text = .ok t ↔ ∀ x, .literal (.number x) ∈ t.nodes → Number.isFinite x = true) := by
  have hreread := ofText_text_of_legible (legible_of_ofText h)
  refine ⟨hreread, ?_⟩
  rw [hreread, Except.ok.injEq]
  exact reread_eq_self_iff t

/-- A finite number with a digit that the canonical text leaves out. -/
theorem ofText_text_of_ofText_sum :
    let t : Expr := .binary .add (.literal (.number 2.5)) (.field "a")
    ofText "(2.50 + [a])" = .ok t ∧ ofText t.text = .ok t := by
  intro t
  have htail : ∀ c ∈ ['.', '5', '0'], Token.isNumberPart c = true := List.all_eq_true.mp rfl
  have hnumber : SpellsAnywhere "2.50".toList [.number 2.5] := fun rest hr =>
    Token.spells_number (c := '2') rfl htail (by decide +kernel) hr
  have hfield : SpellsAnywhere "[a]".toList [.field "a"] := fun rest _ =>
    Token.spells_field (show ']' ∉ "a".toList by decide)
  have hspells : SpellsAnywhere "(2.50 + [a])".toList _ := fun rest _ =>
    spells_operation .add hnumber hfield
  have hd : Derives .prefixed _ t :=
    Derives.operation .add (.operand (.number 2.5)) (.operand (.field "a"))
  have hread : ofText "(2.50 + [a])" = .ok t := ofText_of_spells hspells (hd.loosen (by decide))
  refine ⟨hread, (ofText_text_of_ofText hread).2.mpr ?_⟩
  intro x hx
  obtain rfl : x = 2.5 := by simpa [t, nodes] using hx
  decide +kernel

/-- A one with 400 zeros or more is read as infinity. -/
theorem ofText_zeros {n : Nat} (hn : 400 ≤ n) :
    ofText (String.ofList ('1' :: List.replicate n '0')) =
      .ok (.literal (.number Number.infinity)) := by
  have hzero : ∀ c ∈ List.replicate n '0', c = '0' := fun c hc => List.eq_of_mem_replicate hc
  have hdigit : ∀ c ∈ '1' :: List.replicate n '0', Decimal.isDigit c = true := by
    intro c hc
    rcases List.mem_cons.mp hc with rfl | hc
    · rfl
    · rw [hzero c hc]
      rfl
  have hdigits : Decimal.ofDigits ('1' :: List.replicate n '0') = 10 ^ n * Decimal.ofDigits ['1'] :=
    Decimal.ofDigits_append_zeros ['1'] n
  have hvalue : Decimal.read? ('1' :: List.replicate n '0') = some Number.infinity :=
    Decimal.read?_of_long hdigit hn (by rw [hdigits]; exact Nat.le_mul_of_pos_right _ (by decide))
  have hspells : SpellsAnywhere (String.ofList ('1' :: List.replicate n '0')).toList
      [.number Number.infinity] := by
    intro rest hr
    rw [String.toList_ofList]
    refine Token.spells_number rfl (fun c hc => ?_) hvalue hr
    rw [hzero c hc]
    rfl
  exact ofText_of_spells hspells ((Derives.number Number.infinity).loosen (by decide))

/-- **A number of 401 digits does not survive printing**: it is infinite, and it comes back as the
text of a word. -/
theorem ofText_text_of_ofText_infinity :
    let formula := String.ofList ('1' :: List.replicate 400 '0')
    let t : Expr := .literal (.number Number.infinity)
    ofText formula = .ok t ∧ Number.isFinite Number.infinity = false ∧
      t.text = "Infinity" ∧ ofText t.text = .ok (.literal (.text "Infinity")) := by
  intro formula t
  have hread : ofText formula = .ok t := ofText_zeros (Nat.le_refl 400)
  have hagain : ofText t.text = .ok t.reread := ofText_text_of_legible (legible_of_ofText hread)
  exact ⟨hread, by decide, text_infinity, hagain⟩

end Expr

end RecordFormula
