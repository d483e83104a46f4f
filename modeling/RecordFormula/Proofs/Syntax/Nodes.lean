import RecordFormula.Expr.Basic
import RecordFormula.Proofs.Members

/-!
# The nodes of a tree

Every tree inside a tree, and what the lists of names of a tree say about them.

* `Expr.induct` — induction on a tree, for all arguments of a call at once.
* `Expr.nodes` — a tree and all trees inside it; the nodes of a part are nodes of the whole
  (`nodes_subset_call`, `nodes_subset_left`, `nodes_subset_right`, `nodes_subset_operand`).
* **The names are those of the nodes** (`mem_functions_iff`, `mem_fields_iff`).
-/

namespace RecordFormula

namespace Expr

/-- Induction on a tree, for all arguments of a call at once. -/
@[elab_as_elim]
theorem induct {motive : Expr → Prop} (literal : ∀ v, motive (.literal v))
    (field : ∀ name, motive (.field name))
    (call : ∀ name args, (∀ a ∈ args, motive a) → motive (.call name args))
    (binary : ∀ op left right, motive left → motive right → motive (.binary op left right))
    (unary : ∀ op operand, motive operand → motive (.unary op operand)) : ∀ e, motive e
  | .literal v => literal v
  | .field name => field name
  | .call name args => call name args fun a _ => induct literal field call binary unary a
  | .binary op left right =>
    binary op left right (induct literal field call binary unary left)
      (induct literal field call binary unary right)
  | .unary op operand => unary op operand (induct literal field call binary unary operand)

/-! ### Nodes -/

mutual

/-- A tree and all trees inside it, in the order of its text. -/
def nodes : Expr → List Expr
  | .literal value => [.literal value]
  | .field name => [.field name]
  | .call name args => .call name args :: nodesOf args
  | .binary op left right => .binary op left right :: (nodes left ++ nodes right)
  | .unary op operand => .unary op operand :: nodes operand

/-- The trees of a list and all trees inside them. -/
def nodesOf : List Expr → List Expr
  | [] => []
  | e :: rest => nodes e ++ nodesOf rest

end

section nodes

variable {e n : Expr} {args : List Expr}

/-- The nodes of a list are those of its trees. -/
@[simp] theorem mem_nodesOf : n ∈ nodesOf args ↔ ∃ a ∈ args, n ∈ a.nodes := by
  induction args with
  | nil => simp [nodesOf]
  | cons e rest ih => simp [nodesOf, ih]

/-- A tree is one of its nodes. -/
@[simp] theorem self_mem_nodes (e : Expr) : e ∈ e.nodes := by cases e <;> simp [nodes]

/-- The nodes of an argument are nodes of the call. -/
theorem nodes_subset_call (name : String) (he : e ∈ args) : e.nodes ⊆ (call name args).nodes := by
  intro n hn
  rw [nodes, List.mem_cons, mem_nodesOf]
  exact .inr ⟨e, he, hn⟩

/-- The nodes of the left operand are nodes of the operation. -/
theorem nodes_subset_left (op : Operator) (left right : Expr) :
    left.nodes ⊆ (binary op left right).nodes := by
  intro n hn
  simp [nodes, hn]

/-- The nodes of the right operand are nodes of the operation. -/
theorem nodes_subset_right (op : Operator) (left right : Expr) :
    right.nodes ⊆ (binary op left right).nodes := by
  intro n hn
  simp [nodes, hn]

/-- The nodes of an operand are nodes of the operation in front of it. -/
theorem nodes_subset_operand (op : PrefixOperator) (operand : Expr) :
    operand.nodes ⊆ (unary op operand).nodes := by
  intro n hn
  simp [nodes, hn]

end nodes

/-! ### Names -/

section names

variable {e : Expr} {args : List Expr} {name : String}

/-- The functions that a list of trees calls are those that its trees call. -/
@[simp] theorem mem_functionNamesOf :
    name ∈ functionNamesOf args ↔ ∃ a ∈ args, name ∈ a.functionNames := by
  induction args with
  | nil => simp [functionNamesOf]
  | cons e rest ih => simp [functionNamesOf, ih]

/-- The fields that a list of trees mentions are those that its trees mention. -/
@[simp] theorem mem_fieldNamesOf :
    name ∈ fieldNamesOf args ↔ ∃ a ∈ args, name ∈ a.fieldNames := by
  induction args with
  | nil => simp [fieldNamesOf]
  | cons e rest ih => simp [fieldNamesOf, ih]

/-- **The functions of a tree are those that its nodes call**, by uppercase name. -/
theorem mem_functions_iff :
    name ∈ e.functions ↔ ∃ callee args, .call callee args ∈ e.nodes ∧ Text.upper callee = name := by
  rw [functions, mem_distinctTexts]
  induction e using induct with
  | literal v => simp [functionNames, nodes]
  | field name => simp [functionNames, nodes]
  | call callee args ih =>
    rw [functionNames, nodes, List.mem_cons, mem_functionNamesOf]
    constructor
    · rintro (rfl | ⟨a, ha, hname⟩)
      · exact ⟨callee, args, by simp, rfl⟩
      · obtain ⟨callee', args', hmem, rfl⟩ := (ih a ha).mp hname
        exact ⟨callee', args', List.mem_cons_of_mem _ (mem_nodesOf.mpr ⟨a, ha, hmem⟩), rfl⟩
    · rintro ⟨callee', args', hmem, rfl⟩
      rcases List.mem_cons.mp hmem with heq | hmem
      · cases heq
        exact .inl rfl
      · obtain ⟨a, ha, hmem⟩ := mem_nodesOf.mp hmem
        exact .inr ⟨a, ha, (ih a ha).mpr ⟨callee', args', hmem, rfl⟩⟩
  | binary op left right ihl ihr =>
    simp only [functionNames, nodes, List.mem_append, List.mem_cons, ihl, ihr, reduceCtorEq,
      false_or, or_and_right, exists_or]
  | unary op operand ih => simpa [functionNames, nodes] using ih

/-- **The fields of a tree are those that are its nodes.** -/
theorem mem_fields_iff : name ∈ e.fields ↔ .field name ∈ e.nodes := by
  rw [fields, mem_distinctTexts]
  induction e using induct with
  | literal v => simp [fieldNames, nodes]
  | field name => simp [fieldNames, nodes]
  | call callee args ih =>
    simp only [fieldNames, nodes, List.mem_cons, reduceCtorEq, false_or, mem_fieldNamesOf,
      mem_nodesOf]
    exact exists_congr fun a => and_congr_right fun ha => ih a ha
  | binary op left right ihl ihr => simp [fieldNames, nodes, ihl, ihr]
  | unary op operand ih => simpa [fieldNames, nodes] using ih

end names

end Expr

end RecordFormula
