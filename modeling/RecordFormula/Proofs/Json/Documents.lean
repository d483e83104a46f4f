import RecordFormula.Proofs.Json.Texts
import RecordFormula.Proofs.Value.Exchange

/-!
# Documents that are the same

Two documents are the same if they have the same parts: objects are compared as maps, texts by their
characters, and numbers by kind and bits, so that `1` and `1.0` differ, and so do both zeros.

* `Json.Same` — the comparison.
* `Json.Document` — the documents whose numbers have a spelling and whose members are in order, as
  those are that come out of a text or are put together.
* **Documents are the same exactly if their texts are** (`Json.Document.compact_eq_iff`).
-/

namespace RecordFormula

namespace Json

/-- Are the documents the same? -/
inductive Same : Json → Json → Prop
  /-- Nothing is the same as nothing. -/
  | null : Same .null .null
  /-- Truth values are compared. -/
  | boolean (b : Bool) : Same (.boolean b) (.boolean b)
  /-- Whole numbers are compared. -/
  | integer (n : Int) : Same (.integer n) (.integer n)
  /-- Numbers with a fraction or an exponent are compared by their bits. -/
  | real {x y : Float} (h : x.toBits = y.toBits) : Same (.real x) (.real y)
  /-- Texts are compared. -/
  | text (s : String) : Same (.text s) (.text s)
  /-- Lists are of the same length, and each element is the same as that at its place. -/
  | array {items items' : List Json} (hlength : items.length = items'.length)
      (h : ∀ (i : Nat) (j j' : Json), items[i]? = some j → items'[i]? = some j' → Same j j') :
    Same (.array items) (.array items')
  /-- Objects have members under the same names, and under each name the members are the same. -/
  | object {members members' : List (String × Json)}
      (hnames : ∀ name, (Members.find? name members).isSome = (Members.find? name members').isSome)
      (h : ∀ (name : String) (j j' : Json), Members.find? name members = some j →
        Members.find? name members' = some j' → Same j j') :
    Same (.object members) (.object members')

variable {j j' : Json}

/-- A document is the same as itself. -/
theorem Same.refl (h : j.Proper) : Same j j := by
  induction h with
  | null => exact .null
  | boolean b => exact .boolean b
  | integer => exact .integer _
  | real => exact .real rfl
  | text s => exact .text s
  | array h ih =>
    refine .array rfl fun i j j' hj hj' => ?_
    obtain rfl := Option.some.inj (hj.symm.trans hj')
    exact ih j (List.mem_of_getElem? hj)
  | object h ih =>
    refine .object (fun _ => rfl) fun name j j' hj hj' => ?_
    obtain rfl := Option.some.inj (hj.symm.trans hj')
    exact ih (name, j) (Members.mem_of_find? hj)

/-- **Documents in order that are the same are equal.** -/
theorem Same.eq (h : Same j j') (hj : j.Ordered) (hj' : j'.Ordered) : j = j' := by
  induction h with
  | null => rfl
  | boolean => rfl
  | integer => rfl
  | real h => exact congrArg Json.real (Float.toBits_inj.mp h)
  | text => rfl
  | @array items items' hlength h ih =>
    cases hj with | array hitems =>
    cases hj' with | array hitems' =>
    refine congrArg Json.array (List.ext_getElem hlength fun i hi hi' => ?_)
    have hget : items[i]? = some items[i] := List.getElem?_eq_getElem hi
    have hget' : items'[i]? = some items'[i] := List.getElem?_eq_getElem hi'
    exact ih i _ _ hget hget' (hitems _ (List.getElem_mem hi)) (hitems' _ (List.getElem_mem hi'))
  | @object members members' hnames h ih =>
    cases hj with | object hmembers horder =>
    cases hj' with | object hmembers' horder' =>
    refine congrArg Json.object (Members.eq_of_find?_eq horder horder' fun name => ?_)
    cases hfind : Members.find? name members with
    | none =>
      have hnone := hnames name
      rw [hfind, eq_comm, Option.isSome_none, Option.isSome_eq_false_iff] at hnone
      exact (Option.isNone_iff_eq_none.mp hnone).symm
    | some j =>
      have hsome := hnames name
      rw [hfind, eq_comm, Option.isSome_some] at hsome
      obtain ⟨j', hfind'⟩ := Option.isSome_iff_exists.mp hsome
      rw [hfind', ih name j j' hfind hfind' (hmembers (name, j) (Members.mem_of_find? hfind))
        (hmembers' (name, j') (Members.mem_of_find? hfind'))]

/-- A document as it comes out of a text or is put together: its numbers have a spelling, and the
members of its objects are in order. -/
structure Document where
  /-- The document. -/
  json : Json
  /-- Its numbers are integers of 64 bits, with a sign or without, and finite ones. -/
  proper : json.Proper
  /-- Its members are in order. -/
  ordered : json.Ordered

/-- **Documents are the same exactly if their texts are.** -/
theorem Document.compact_eq_iff (d d' : Document) :
    d.json.compact = d'.json.compact ↔ Same d.json d'.json := by
  constructor
  · intro h
    rw [compact_inj d.proper d'.proper h]
    exact .refl d'.proper
  · intro h
    rw [h.eq d.ordered d'.ordered]

end Json

end RecordFormula
