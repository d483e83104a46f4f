import RecordFormula.Proofs.Evaluation.Outcomes
import RecordFormula.Proofs.Registry
import RecordFormula.Proofs.Syntax.Nodes

/-!
# The case of letters in names

Names of functions are put in uppercase wherever they are used: when a function is registered, when
it is looked up, when it is called and when the functions of a tree are listed. So it makes no
difference in which case their letters are.

* `Text.small` — a text with its letters of the basic alphabet in lowercase. **It has the same
  uppercase form** (`Text.upper_small`).
* **What a registry holds after any registrations** (`Registry.find?_registerAll`,
  `Registry.ordered_registerAll`, `Registry.mem_names_registerAll`).
* `Expr.uncased` — a tree with the names of its functions in lowercase. **It calls the same functions
  and gives the same** (`Expr.functionNames_uncased`, `Expr.evaluate_uncased`).
* **A tree does not see what is registered as `IF`** (`Expr.evaluate_register_if`).
* **The case of letters makes no difference** (`Expr.letter_case_ignored`).
-/

namespace RecordFormula

open Enrichment (Environment Store)

/-! ### Letters of the basic alphabet -/

/-- A letter of the basic alphabet and its lowercase form have the same uppercase form. -/
theorem Casing.upper_toLower (c : Char) : upper c.toLower = upper c := by
  have hletters : ∀ i : Fin 26, upper (Char.ofNat (0x41 + i)).toLower = upper (Char.ofNat (0x41 + i)) := by
    decide
  by_cases hc : 0x41 ≤ c.toNat ∧ c.toNat ≤ 0x5A
  · have hi := hletters ⟨c.toNat - 0x41, by omega⟩
    rwa [show 0x41 + (c.toNat - 0x41) = c.toNat by omega, Char.ofNat_toNat] at hi
  · have hstay : c.toLower = c := by
      unfold Char.toLower
      rw [dif_neg]
      simpa [UInt32.le_iff_toNat_le] using hc
    rw [hstay]

namespace Text

/-- A text with its letters of the basic alphabet in lowercase. -/
def small (s : String) : String := String.ofList (s.toList.map Char.toLower)

/-- **Its uppercase form is the same.** -/
@[simp] theorem upper_small (s : String) : upper (small s) = upper s := by
  have hcs : ∀ cs : List Char, (cs.map Char.toLower).flatMap Casing.upper = cs.flatMap Casing.upper := by
    intro cs
    induction cs with
    | nil => rfl
    | cons c rest ih => rw [List.map_cons, List.flatMap_cons, List.flatMap_cons, ih, Casing.upper_toLower]
  rw [upper, small, String.toList_ofList, hcs, upper]

end Text

/-! ### Registrations -/

namespace Registry

variable {r : Registry} {registrations : List (String × Function)}

/-- **The function that was registered last** under a name of the same uppercase form is found, or
else what was there before. -/
theorem find?_registerAll (name : String) :
    (r.registerAll registrations).find? name =
      ((registrations.reverse.find? fun p => Text.upper p.1 == Text.upper name).map (·.2)).or
        (r.find? name) := by
  induction registrations generalizing r with
  | nil => rfl
  | cons p rest ih =>
    have hstep : r.registerAll (p :: rest) = (r.register p.1 p.2).registerAll rest := rfl
    rw [hstep, ih, find?_register, List.reverse_cons, List.find?_append, Option.map_or, Option.or_assoc]
    congr 1
    by_cases hname : Text.upper name = Text.upper p.1
    · simp [hname]
    · simp [hname, Ne.symm hname]

/-- Registering keeps the names in order. -/
theorem ordered_registerAll (h : Members.Ordered r.functions) :
    Members.Ordered (r.registerAll registrations).functions := by
  induction registrations generalizing r with
  | nil => exact h
  | cons p rest ih => exact ih (Members.ordered_insert _ _ h)

/-- The names are the uppercase forms of those that were registered. -/
theorem mem_names_registerAll {key : String} :
    key ∈ (r.registerAll registrations).names ↔
      (∃ p ∈ registrations, Text.upper p.1 = key) ∨ key ∈ r.names := by
  induction registrations generalizing r with
  | nil => simp [registerAll]
  | cons p rest ih =>
    have hstep : r.registerAll (p :: rest) = (r.register p.1 p.2).registerAll rest := rfl
    have hnames : key ∈ (r.register p.1 p.2).names ↔ key = Text.upper p.1 ∨ key ∈ r.names :=
      Members.mem_keys_insert _
    rw [hstep, ih, hnames, or_left_comm, ← or_assoc, eq_comm (a := key)]
    simp only [List.mem_cons, exists_eq_or_imp]

end Registry

/-! ### Trees -/

namespace Expr

mutual

/-- A tree with the names of its functions in lowercase, as far as they are spelled with letters of
the basic alphabet. -/
def uncased : Expr → Expr
  | .literal value => .literal value
  | .field name => .field name
  | .call name args => .call (Text.small name) (uncasedAll args)
  | .binary op left right => .binary op (uncased left) (uncased right)
  | .unary op operand => .unary op (uncased operand)

/-- A list of trees with the names of their functions in lowercase. -/
def uncasedAll : List Expr → List Expr
  | [] => []
  | e :: rest => uncased e :: uncasedAll rest

end

variable {registry : Registry} {record : Record} {args : List Expr}

/-- The trees of a list are changed one by one. -/
theorem uncasedAll_eq_map (args : List Expr) : uncasedAll args = args.map uncased := by
  induction args with
  | nil => rfl
  | cons e rest ih => rw [uncasedAll, ih, List.map_cons]

/-- Trees that are changed one by one call the same functions if each of them does. -/
theorem functionNamesOf_map {g : Expr → Expr} (h : ∀ a ∈ args, (g a).functionNames = a.functionNames) :
    functionNamesOf (args.map g) = functionNamesOf args := by
  induction args with
  | nil => rfl
  | cons e rest ih =>
    rw [List.map_cons, functionNamesOf, functionNamesOf, h e (by simp),
      ih fun a ha => h a (List.mem_cons_of_mem e ha)]

/-- **A tree in lowercase calls the same functions.** -/
theorem functionNames_uncased (t : Expr) : t.uncased.functionNames = t.functionNames := by
  induction t using induct with
  | literal v => rfl
  | field name => rfl
  | call name args ih =>
    rw [uncased, functionNames, functionNames, Text.upper_small, uncasedAll_eq_map,
      functionNamesOf_map ih]
  | binary op left right ihl ihr => rw [uncased, functionNames, functionNames, ihl, ihr]
  | unary op operand ih => rw [uncased, functionNames, functionNames, ih]

/-- Trees that are changed one by one give the same values if each of them does. -/
theorem evaluateAll_map {g : Expr → Expr} {registry' : Registry}
    (h : ∀ a ∈ args, evaluate registry' record (g a) = evaluate registry record a) :
    evaluateAll registry' record (args.map g) = evaluateAll registry record args := by
  induction args with
  | nil => rfl
  | cons e rest ih =>
    rw [List.map_cons, evaluateAll, evaluateAll, h e (by simp),
      ih fun a ha => h a (List.mem_cons_of_mem e ha)]

/-- So does the tree at any place of the list. -/
theorem evaluateAt_map {g : Expr → Expr} {registry' : Registry}
    (h : ∀ a ∈ args, evaluate registry' record (g a) = evaluate registry record a) (n : Nat) :
    evaluateAt registry' record n (args.map g) = evaluateAt registry record n args := by
  rw [evaluateAt_eq, evaluateAt_eq, List.getElem?_map]
  cases hn : args[n]? with
  | none => rfl
  | some e => exact h e (List.mem_of_getElem? hn)

/-- **A tree in lowercase gives the same**, whatever the registry holds. -/
theorem evaluate_uncased (t : Expr) : evaluate registry record t.uncased = evaluate registry record t := by
  induction t using induct with
  | literal v => rfl
  | field name => rfl
  | call name args ih =>
    rw [uncased, uncasedAll_eq_map, evaluate, evaluate]
    simp only [Text.upper_small, evaluateAll_map ih, evaluateAt_map ih]
  | binary op left right ihl ihr => rw [uncased, evaluate, evaluate, ihl, ihr]
  | unary op operand ih => rw [uncased, evaluate, evaluate, ih]

/-- **A tree does not see what is registered as `IF`.** -/
theorem evaluate_register_if {key : String} (hkey : Text.upper key = "IF") (f : Function) (t : Expr) :
    evaluate (registry.register key f) record t = evaluate registry record t := by
  induction t using induct with
  | literal v => rw [evaluate, evaluate]
  | field name => rw [evaluate, evaluate]
  | call name args ih =>
    have hall := evaluateAll_map (g := id) ih
    have hat := evaluateAt_map (g := id) ih
    rw [List.map_id] at hall hat
    rw [evaluate, evaluate]
    by_cases hif : Text.upper name = "IF"
    · simp only [if_pos hif, hat]
    · have hfind : (registry.register key f).find? name = registry.find? name := by
        rw [Registry.find?_register, if_neg (hkey ▸ hif)]
      simp only [if_neg hif, Registry.find?_upper, hfind, hall]
  | binary op left right ihl ihr => rw [evaluate, evaluate, ihl, ihr]
  | unary op operand ih => rw [evaluate, evaluate, ih]

/-- **The case of letters in the names of functions makes no difference.** After any registrations, in
whichever case the names are spelled, a name finds the function that was registered last under a name
of the same uppercase form, or none if there was none; the names are listed in ascending order, as many
as functions are counted, and each uppercase form is listed. Two trees that differ only in the case of
basic letters in the names of functions call the same functions and, over any registry, for any record
and from any state, give the same value or the same failure after the same requests and leave the same
cache. A call of `IF`, in whichever case, evaluates its condition and then what the condition selects,
and nothing that is registered under that name changes what a tree gives. -/
theorem letter_case_ignored (registrations : List (String × Function)) {t t' : Expr}
    (h : t.uncased = t'.uncased) (registry : Registry) (record : Record) (env : Environment)
    (st : Store) {callee : String} (hif : Text.upper callee = "IF") (f : Function)
    (args : List Expr) :
    (∀ name, (Registry.ofList registrations).find? name =
      (registrations.reverse.find? fun p => Text.upper p.1 == Text.upper name).map (·.2)) ∧
    ((Registry.ofList registrations).names.Pairwise (· < ·) ∧
      (Registry.ofList registrations).names.length = (Registry.ofList registrations).size ∧
      ∀ key, key ∈ (Registry.ofList registrations).names ↔
        ∃ p ∈ registrations, Text.upper p.1 = key) ∧
    t.functions = t'.functions ∧
    (t.evaluate registry record).run env st = (t'.evaluate registry record).run env st ∧
    evaluate registry record (.call callee args) =
      (evaluateAt registry record 0 args >>= fun condition =>
        evaluateAt registry record (if condition.isTruthy then 1 else 2) args) ∧
    evaluate (registry.register callee f) record t = evaluate registry record t := by
  have hempty : Members.Ordered Registry.empty.functions := List.Pairwise.nil
  refine ⟨fun name => ?_, ⟨Registry.ordered_registerAll hempty, List.length_map .., fun key => ?_⟩,
    ?_, ?_, ?_, evaluate_register_if hif f t⟩
  · have hnone : Registry.empty.find? name = none := rfl
    rw [Registry.ofList, Registry.find?_registerAll, hnone, Option.or_none]
  · have hnone : key ∉ Registry.empty.names := List.not_mem_nil
    rw [Registry.ofList, Registry.mem_names_registerAll, or_iff_left hnone]
  · rw [functions, functions, ← functionNames_uncased t, h, functionNames_uncased]
  · rw [← evaluate_uncased t, h, evaluate_uncased]
  · rw [evaluate]
    simp only [if_pos hif]

/-- Two spellings of a guarded quotient. -/
theorem letter_case_ignored_guarded :
    let branch : Expr := .binary .divide (.literal (.number 1.0)) (.literal (.number 0.0))
    let t : Expr := .call "if" [.call "Not" [.field "a"], .literal (.text "none"), branch]
    let t' : Expr := .call "iF" [.call "NOT" [.field "a"], .literal (.text "none"), branch]
    let other : Function := .pure fun _ => .null
    let registrations := [("Not", other), ("nOT", .pure Conditions.not)]
    t.uncased = t'.uncased ∧ Text.upper "If" = "IF" ∧
      (Registry.ofList registrations).names = ["NOT"] ∧
      ∀ env st,
        (t.evaluate (.ofList registrations) []).run env st =
          (t'.evaluate (.ofList registrations) []).run env st := by
  intro branch t t' other registrations
  have hcase : t.uncased = t'.uncased := by
    have hnames : Text.small "if" = Text.small "iF" ∧ Text.small "Not" = Text.small "NOT" := by decide
    simp only [t, t', uncased, uncasedAll, hnames]
  have hif : Text.upper "If" = "IF" := by decide
  exact ⟨hcase, hif, by decide, fun env st =>
    (letter_case_ignored registrations hcase (.ofList registrations) [] env st hif other []).2.2.2.1⟩

end Expr

end RecordFormula
