import Mathlib.Tactic.Common
import RecordFormula.Expr.Parse

/-!
# The grammar of formulas

Which lists of token kinds are formulas, and the tree of each, as a relation that knows nothing of
the way in which tokens are read.

* `Phrase` — the five kinds of phrases, from a comparison down to a primary; `Phrase.operand` is
  what a phrase is built from, `Phrase.signs` are the signs that join its operands, and
  `Phrase.level` numbers the phrases from the loosest to the tightest.
* `Derives p ks t` — the kinds `ks` are a phrase `p` with the tree `t`. A chain is a shorter chain,
  a sign and one more operand, so chains associate to the left; a prefixed operand is a sign and a
  prefixed operand, so signs in front nest to the right. Parentheses leave no node.
* **Tighter phrases are looser ones** (`Derives.loosen`).
* **No phrase holds the end of the formula** (`Derives.finish_notMem`).
* **The signs of the tokens are those of the grammar** (`mem_signs_iff`, `mem_prefixSigns_iff`).
-/

namespace RecordFormula

namespace Expr

open Token (Kind)

/-! ### Phrases -/

/-- The phrases of a formula, the loosest first. -/
inductive Phrase where
  /-- Sums joined by comparisons. -/
  | comparison
  /-- Products joined by plus and minus. -/
  | sum
  /-- Prefixed operands joined by times and division. -/
  | product
  /-- A primary with any number of signs in front. -/
  | prefixed
  /-- A constant, a field, a call or a comparison in parentheses. -/
  | primary
deriving DecidableEq

/-- The phrase that a phrase is built from. -/
def Phrase.operand : Phrase → Phrase
  | .comparison => .sum
  | .sum => .product
  | .product => .prefixed
  | .prefixed => .primary
  | .primary => .primary

/-- The signs that join the operands of a phrase, and what they mean. -/
def Phrase.signs : Phrase → List (String × Operator)
  | .comparison =>
    [(">", .greater), ("<", .less), (">=", .greaterOrEqual), ("<=", .lessOrEqual), ("==", .equal),
      ("!=", .notEqual), ("=", .equal)]
  | .sum => [("+", .add), ("-", .subtract)]
  | .product => [("*", .multiply), ("/", .divide)]
  | .prefixed => []
  | .primary => []

/-- The signs in front of an operand, and what they mean. -/
def prefixSigns : List (String × PrefixOperator) := [("+", .plus), ("-", .minus), ("!", .not)]

/-- The number of a phrase, counted from the loosest. -/
def Phrase.level : Phrase → Nat
  | .comparison => 0
  | .sum => 1
  | .product => 2
  | .prefixed => 3
  | .primary => 4

/-- The kinds of a list of arguments with commas between them. -/
def separated (args : List (List Kind × Expr)) : List Kind :=
  [Kind.comma].intercalate (args.map Prod.fst)

/-! ### Derivations -/

/-- The kinds `ks` are a phrase with the tree `t`. -/
inductive Derives : Phrase → List Kind → Expr → Prop
  /-- A phrase may be an operand alone. -/
  | operand {p ks t} (h : Derives p.operand ks t) : Derives p ks t
  /-- A chain goes on with a sign and an operand. -/
  | chain {p ks ks' left right sign op} (l : Derives p ks left) (hs : (sign, op) ∈ p.signs)
      (r : Derives p.operand ks' right) :
      Derives p (ks ++ .operator sign :: ks') (.binary op left right)
  /-- A sign in front of a prefixed operand. -/
  | signed {ks t sign op} (hs : (sign, op) ∈ prefixSigns) (h : Derives .prefixed ks t) :
      Derives .prefixed (.operator sign :: ks) (.unary op t)
  /-- A number. -/
  | number (x : Float) : Derives .primary [.number x] (.literal (.number x))
  /-- A quoted text. -/
  | text (s : String) : Derives .primary [.text s] (.literal (.text s))
  /-- The word for truth. -/
  | yes : Derives .primary [.word "true"] (.literal (.boolean true))
  /-- The word for falsehood. -/
  | no : Derives .primary [.word "false"] (.literal (.boolean false))
  /-- Any other word stands for itself. -/
  | word {name : String} (ht : name ≠ "true") (hf : name ≠ "false") :
      Derives .primary [.word name] (.literal (.text name))
  /-- A field. -/
  | field (name : String) : Derives .primary [.field name] (.field name)
  /-- A comparison in parentheses. -/
  | group {ks t} (h : Derives .comparison ks t) :
      Derives .primary (.openParen :: (ks ++ [.closeParen])) t
  /-- A call with any number of arguments. -/
  | call (name : String) (args : List (List Kind × Expr))
      (h : ∀ a ∈ args, Derives .comparison a.1 a.2) :
      Derives .primary (.function name :: .openParen :: (separated args ++ [.closeParen]))
        (.call name (args.map Prod.snd))

/-- A phrase of higher number is a phrase of every lower one. -/
theorem Derives.loosen {q : Phrase} {ks : List Kind} {t : Expr} (h : Derives q ks t) {p : Phrase}
    (hp : p.level ≤ q.level) : Derives p ks t := by
  cases p <;> cases q <;> simp only [Phrase.level] at hp <;> first
    | omega
    | exact h
    | exact .operand h
    | exact .operand (.operand h)
    | exact .operand (.operand (.operand h))
    | exact .operand (.operand (.operand (.operand h)))

/-- What a bare word stands for is derived from it. -/
theorem Derives.ofWord (name : String) :
    Derives .primary [.word name] (.literal (wordValue name)) := by
  unfold wordValue
  split_ifs with ht hf
  · exact ht ▸ .yes
  · exact hf ▸ .no
  · exact .word ht hf

/-- What stands between commas is a comma or belongs to an argument. -/
theorem mem_separated {k : Kind} {args : List (List Kind × Expr)} (h : k ∈ separated args) :
    k = .comma ∨ ∃ a ∈ args, k ∈ a.1 := by
  induction args with
  | nil => simp [separated] at h
  | cons a rest ih =>
    cases rest with
    | nil => exact .inr ⟨a, by simp, by simpa [separated] using h⟩
    | cons b rest =>
      simp only [separated, List.map_cons, List.intercalate_cons_cons, List.append_assoc,
        List.mem_append, List.mem_singleton] at h
      rcases h with h | h | h
      · exact .inr ⟨a, by simp, h⟩
      · exact .inl h
      · rcases ih (by simpa [separated] using h) with h | ⟨c, hc, hk⟩
        · exact .inl h
        · exact .inr ⟨c, List.mem_cons_of_mem _ hc, hk⟩

/-- No phrase holds the end of the formula. -/
theorem Derives.finish_notMem {p : Phrase} {ks : List Kind} {t : Expr} (h : Derives p ks t) :
    Kind.finish ∉ ks := by
  induction h with
  | operand _ ih => exact ih
  | chain _ _ _ ihl ihr => simp [ihl, ihr]
  | signed _ _ ih => simp [ih]
  | group _ ih => simp [ih]
  | call name args _ ih =>
    have hargs : Kind.finish ∉ separated args := by
      intro hmem
      rcases mem_separated hmem with h | ⟨a, ha, hk⟩
      · cases h
      · exact ih a ha hk
    simp [hargs]
  | _ => simp

/-! ### Signs -/

/-- A sign joins the operands of a phrase exactly if it is the sign of an operator of that
strength. -/
theorem mem_signs_iff {p : Phrase} {sign : String} {op : Operator} :
    (sign, op) ∈ p.signs ↔ Operator.ofSymbol? sign = some op ∧ strength op = p.level := by
  constructor
  · have h : ∀ x ∈ p.signs, Operator.ofSymbol? x.1 = some x.2 ∧ strength x.2 = p.level := by
      cases p <;> decide
    exact h (sign, op)
  · rintro ⟨h, hp⟩
    unfold Operator.ofSymbol? at h
    split at h <;> cases h <;> cases p <;> simp_all [Phrase.signs, Phrase.level, strength]

/-- Every operator is one of a phrase that is a chain. -/
theorem exists_mem_signs {sign : String} {op : Operator} (h : Operator.ofSymbol? sign = some op) :
    ∃ p : Phrase, (sign, op) ∈ p.signs ∧ p.level ≤ 2 := by
  obtain ⟨p, hp, hle⟩ : ∃ p : Phrase, strength op = p.level ∧ p.level ≤ 2 := by
    cases op <;> first
      | exact ⟨.comparison, rfl, by decide⟩
      | exact ⟨.sum, rfl, by decide⟩
      | exact ⟨.product, rfl, by decide⟩
  exact ⟨p, mem_signs_iff.mpr ⟨h, hp⟩, hle⟩

/-- A sign may stand in front of an operand exactly if it is the sign of a prefix operator. -/
theorem mem_prefixSigns_iff {sign : String} {op : PrefixOperator} :
    (sign, op) ∈ prefixSigns ↔ PrefixOperator.ofSymbol? sign = some op := by
  constructor
  · have h : ∀ x ∈ prefixSigns, PrefixOperator.ofSymbol? x.1 = some x.2 := by decide
    exact h (sign, op)
  · intro h
    unfold PrefixOperator.ofSymbol? at h
    split at h <;> cases h <;> simp [prefixSigns]

end Expr

end RecordFormula
