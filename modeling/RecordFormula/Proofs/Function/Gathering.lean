import RecordFormula.Proofs.Number.Sum
import RecordFormula.Proofs.Registry
import RecordFormula.Proofs.Value.Leaves

/-!
# Functions of many values

Some functions take any number of values and look at their leaves alone, from the first to the last.
It makes no difference to them which of the values stand in arrays.

* `Function.gathering` — these functions by their names; **they give the same for arrays and for what
  the arrays hold** (`Function.gathering_regroup`, `Function.gathering_flatten`).
* **Texts of more values are joined behind those of the first ones** (`Texts.join_append`).
* `Aggregates.present` — the number of leaves that are not empty; **the numbers of two lists add up**
  (`Aggregates.present_append`, `Aggregates.count_append`).
* All of this together is `Value.flatten_gathers`.
-/

namespace RecordFormula

/-! ### One value after the other -/

namespace Function

/-- The functions of any number of values that look at their leaves. -/
def gathering : List (String × (List Value → Value)) :=
  [("SUM", Aggregates.sum), ("AVG", Aggregates.average), ("COUNT", Aggregates.count),
    ("MIN", Aggregates.least), ("MAX", Aggregates.greatest), ("CONCAT", Texts.join)]

variable {p : String × (List Value → Value)}

/-- They are standard functions. -/
theorem find?_gathering (hp : p ∈ gathering) :
    Registry.standard.find? p.1 = some (.pure p.2) := by
  apply Registry.find?_standard_of_mem
  simp only [gathering, List.mem_cons, List.not_mem_nil, or_false] at hp
  rcases hp with rfl | rfl | rfl | rfl | rfl | rfl <;> simp [standard, aggregates, texts]

/-- **They look at nothing but the leaves.** -/
theorem gathering_congr (hp : p ∈ gathering) {xs ys : List Value}
    (h : Value.flatten xs = Value.flatten ys) : p.2 xs = p.2 ys := by
  have hnumbers : Aggregates.numbers xs = Aggregates.numbers ys := by
    unfold Aggregates.numbers
    rw [h]
  simp only [gathering, List.mem_cons, List.not_mem_nil, or_false] at hp
  rcases hp with rfl | rfl | rfl | rfl | rfl | rfl
  · show Aggregates.sum xs = Aggregates.sum ys
    unfold Aggregates.sum
    rw [hnumbers]
  · show Aggregates.average xs = Aggregates.average ys
    unfold Aggregates.average
    rw [hnumbers]
  · show Aggregates.count xs = Aggregates.count ys
    unfold Aggregates.count
    rw [h]
  · show Aggregates.least xs = Aggregates.least ys
    unfold Aggregates.least
    rw [hnumbers]
  · show Aggregates.greatest xs = Aggregates.greatest ys
    unfold Aggregates.greatest
    rw [hnumbers]
  · show Texts.join xs = Texts.join ys
    unfold Texts.join
    rw [h]

/-- **An array counts as what it holds.** -/
theorem gathering_regroup (hp : p ∈ gathering) (xs ys zs : List Value) :
    p.2 (xs ++ [.array ys] ++ zs) = p.2 (xs ++ ys ++ zs) :=
  gathering_congr hp (Value.flatten_regroup xs ys zs)

/-- **So do all arrays at once.** -/
theorem gathering_flatten (hp : p ∈ gathering) (args : List Value) :
    p.2 args = p.2 (Value.flatten args) :=
  gathering_congr hp (Value.flatten_flatten args).symm

end Function

/-! ### Texts -/

namespace Texts

/-- Two lists of texts are joined one after the other. -/
theorem joinAll_append (ss ts : List String) : joinAll (ss ++ ts) = joinAll ss ++ joinAll ts := by
  unfold joinAll
  induction ss with
  | nil => simp
  | cons s rest ih => rw [List.cons_append, List.foldr_cons, ih, List.foldr_cons, String.append_assoc]

/-- **The texts of more values follow those of the first ones.** -/
theorem join_append (xs ys : List Value) :
    ∃ s t, join xs = .text s ∧ join ys = .text t ∧ join (xs ++ ys) = .text (s ++ t) := by
  refine ⟨_, _, rfl, rfl, ?_⟩
  rw [join, Value.flatten_append, List.map_append, joinAll_append]

end Texts

/-! ### Numbers of values -/

namespace Aggregates

/-- How many leaves are not empty. -/
def present (args : List Value) : Nat := (Value.flatten args).countP fun v => !v.isEmpty

/-- This is the number that is counted. -/
theorem count_eq (args : List Value) : count args = .number (Float.ofNat (present args)) := by
  rw [count, present, List.countP_eq_length_filter]

/-- **The numbers of two lists add up.** -/
theorem present_append (xs ys : List Value) : present (xs ++ ys) = present xs + present ys := by
  rw [present, Value.flatten_append, List.countP_append, present, present]

/-- Small natural numbers are added as they are. -/
theorem ofNat_add {m n : Nat} (h : m + n < 2 ^ 53) :
    Float.ofNat (m + n) = Float.ofNat m + Float.ofNat n := by
  have hm := Number.isWhole_ofNat (n := m) (by omega)
  have hn := Number.isWhole_ofNat (n := n) (by omega)
  by_cases hzero : m + n = 0
  · obtain ⟨rfl, rfl⟩ : m = 0 ∧ n = 0 := by omega
    rfl
  · have hsum := hm.add hn (by omega)
    exact (hsum.eq_ofInt (by omega) (by omega)).symm

/-- **What is counted in two lists adds up**, as long as the sum is small enough to be exact. -/
theorem count_append {xs ys : List Value} (h : present (xs ++ ys) < 2 ^ 53) :
    count (xs ++ ys) = .number (Float.ofNat (present xs) + Float.ofNat (present ys)) := by
  rw [present_append] at h
  rw [count_eq, present_append, ofNat_add h]

end Aggregates

/-! ### All together -/

/-- **How values are gathered in arrays does not matter** to the functions that look at their leaves.

A list is flattened to its leaves, among which no array is left; this is done once, it changes only
lists with arrays, and it is done piece by piece. `SUM`, `AVG`, `COUNT`, `MIN`, `MAX` and `CONCAT`
give the same for an array and for what it holds, and so for any values and for all their leaves.
`CONCAT` of two lists is `CONCAT` of the one followed by `CONCAT` of the other. `COUNT` gives the
number of leaves that are not empty; these numbers add up, and so does what `COUNT` gives of two
lists as long as the floats are exact. -/
theorem Value.flatten_gathers :
    (∀ xs, (∀ v, v ∈ flatten xs ↔ IsLeaf v xs) ∧ (∀ v ∈ flatten xs, v.IsSingle) ∧
      flatten (flatten xs) = flatten xs ∧ (flatten xs = xs ↔ ∀ v ∈ xs, v.IsSingle)) ∧
    (∀ xs ys, flatten (xs ++ ys) = flatten xs ++ flatten ys) ∧
    (∀ p ∈ Function.gathering, Registry.standard.find? p.1 = some (.pure p.2) ∧
      (∀ xs ys zs, p.2 (xs ++ [.array ys] ++ zs) = p.2 (xs ++ ys ++ zs)) ∧
      ∀ args, p.2 args = p.2 (flatten args)) ∧
    (∀ xs ys, ∃ s t, Texts.join xs = .text s ∧ Texts.join ys = .text t ∧
      Texts.join (xs ++ ys) = .text (s ++ t)) ∧
    (∀ xs, Aggregates.count xs = .number (Float.ofNat (Aggregates.present xs))) ∧
    ∀ xs ys, Aggregates.present (xs ++ ys) = Aggregates.present xs + Aggregates.present ys ∧
      (Aggregates.present (xs ++ ys) < 2 ^ 53 →
        ∃ m n, Aggregates.count xs = .number m ∧ Aggregates.count ys = .number n ∧
          Aggregates.count (xs ++ ys) = .number (m + n)) := by
  refine ⟨?_, flatten_append, ?_, Texts.join_append, Aggregates.count_eq, ?_⟩
  · intro xs
    exact ⟨fun v => mem_flatten_iff, fun v => isSingle_of_mem_flatten, flatten_flatten xs,
      flatten_eq_self_iff⟩
  · intro p hp
    exact ⟨Function.find?_gathering hp, Function.gathering_regroup hp,
      Function.gathering_flatten hp⟩
  · intro xs ys
    refine ⟨Aggregates.present_append xs ys, fun h => ?_⟩
    exact ⟨_, _, Aggregates.count_eq xs, Aggregates.count_eq ys, Aggregates.count_append h⟩

/-- A text joined with an array and a number behind it, and what is counted of them: the array holds
an empty value and a text. -/
theorem Value.flatten_gathers_nested :
    Texts.join ([text "a"] ++ [array [null, text "b"]] ++ [number 1]) =
        Texts.join ([text "a"] ++ [null, text "b"] ++ [number 1]) ∧
      Aggregates.present ([text "a", array [null, text "b"]] ++ [number 1]) < 2 ^ 53 ∧
      ∃ m n, Aggregates.count [text "a", array [null, text "b"]] = .number m ∧
        Aggregates.count [number 1] = .number n ∧
        Aggregates.count ([text "a", array [null, text "b"]] ++ [number 1]) =
          .number (m + n) := by
  have hjoin : ("CONCAT", Texts.join) ∈ Function.gathering := by simp [Function.gathering]
  have hsmall : Aggregates.present ([text "a", array [null, text "b"]] ++ [number 1]) < 2 ^ 53 :=
    by decide
  obtain ⟨-, -, hfunctions, -, -, hcount⟩ := Value.flatten_gathers
  refine ⟨?_, hsmall, (hcount [text "a", array [null, text "b"]] [number 1]).2 hsmall⟩
  exact (hfunctions _ hjoin).2.1 [text "a"] [null, text "b"] [number 1]

end RecordFormula
