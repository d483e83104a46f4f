import RecordFormula.Value.Basic

/-!
# The leaves of values

A list of values holds those of its elements that are no arrays and, through its arrays, those that
they hold: its leaves. How the leaves are gathered in arrays is left behind when the list is
flattened.

* `IsSingle` — the value is no array; `IsLeaf` — the value is a leaf of a list.
* **What is flattened holds the leaves and no arrays** (`mem_flatten_iff`, `isSingle_of_mem_flatten`);
  a list is flat already if it holds no arrays (`flatten_eq_self_iff`).
* **Flattening goes through lists piece by piece** (`flatten_append`) and does not see where an array
  starts or ends (`flatten_regroup`).
* `Rearranged` — two lists hold the same leaves in another order or in other arrays; **their leaves
  are the same** (`Rearranged.isLeaf_iff`).
-/

namespace RecordFormula

namespace Value

/-! ### Leaves -/

section leaves

variable {v : Value} {xs ys : List Value}

/-- The value is no array. -/
def IsSingle (v : Value) : Prop := ∀ items, v ≠ .array items

/-- The value is a leaf of the list: it is no array, and an element or a leaf of an array among the
elements. -/
inductive IsLeaf (v : Value) : List Value → Prop where
  /-- An element that is no array. -/
  | head {rest : List Value} (hv : v.IsSingle) : IsLeaf v (v :: rest)
  /-- A leaf of an array. -/
  | inside {items rest : List Value} (h : IsLeaf v items) : IsLeaf v (.array items :: rest)
  /-- A leaf of what follows. -/
  | tail {u : Value} {rest : List Value} (h : IsLeaf v rest) : IsLeaf v (u :: rest)

/-- An empty list has no leaves. -/
@[simp] theorem not_isLeaf_nil : ¬ IsLeaf v [] := nofun

/-- Leaves are no arrays. -/
theorem IsLeaf.isSingle (h : IsLeaf v xs) : v.IsSingle := by
  induction h with
  | head hv => exact hv
  | inside _ ih => exact ih
  | tail _ ih => exact ih

/-- The leaves of an array are those of its elements. -/
theorem isLeaf_array_iff {items : List Value} :
    IsLeaf v (.array items :: ys) ↔ IsLeaf v items ∨ IsLeaf v ys := by
  constructor
  · rintro (hv | h | h)
    · exact absurd rfl (hv items)
    · exact .inl h
    · exact .inr h
  · rintro (h | h)
    · exact .inside h
    · exact .tail h

/-- A value that is no array is a leaf. -/
theorem isLeaf_single_iff {u : Value} (hu : u.IsSingle) :
    IsLeaf v (u :: xs) ↔ v = u ∨ IsLeaf v xs := by
  constructor
  · rintro (_ | _ | h)
    · exact .inl rfl
    · exact absurd rfl (hu _)
    · exact .inr h
  · rintro (rfl | h)
    · exact .head hu
    · exact .tail h

/-- The leaves of two lists are those of the one and of the other. -/
theorem isLeaf_append_iff : IsLeaf v (xs ++ ys) ↔ IsLeaf v xs ∨ IsLeaf v ys := by
  induction xs with
  | nil => simp
  | cons u rest ih =>
    by_cases hu : u.IsSingle
    · rw [List.cons_append, isLeaf_single_iff hu, isLeaf_single_iff hu, ih, or_assoc]
    · obtain ⟨items, rfl⟩ : ∃ items, u = .array items := by
        simpa [IsSingle] using hu
      rw [List.cons_append, isLeaf_array_iff, isLeaf_array_iff, ih, or_assoc]

/-- The leaves of a list are those of its first element and of the others. -/
theorem isLeaf_cons_iff {u : Value} : IsLeaf v (u :: xs) ↔ IsLeaf v [u] ∨ IsLeaf v xs := by
  rw [← isLeaf_append_iff, List.singleton_append]

end leaves

/-! ### Flattening -/

section flattening

variable {v : Value} {xs ys zs : List Value}

/-- A value that is no array stands for itself. -/
theorem leaves_of_isSingle (h : v.IsSingle) : leaves v = [v] := by
  cases v with
  | array items => exact absurd rfl (h items)
  | _ => rfl

/-- What stands for a value that is no array is a leaf. -/
theorem isLeaf_of_isSingle {u : Value} (hu : u.IsSingle) (h : v ∈ leaves u) : IsLeaf v [u] := by
  rw [leaves_of_isSingle hu, List.mem_singleton] at h
  rw [h]
  exact .head hu

mutual

/-- What a value stands for are leaves. -/
theorem isLeaf_of_mem_leaves : ∀ u : Value, v ∈ leaves u → IsLeaf v [u]
  | .array items, h => .inside (isLeaf_of_mem_flatten items h)
  | .null, h => isLeaf_of_isSingle nofun h
  | .boolean _, h => isLeaf_of_isSingle nofun h
  | .number _, h => isLeaf_of_isSingle nofun h
  | .text _, h => isLeaf_of_isSingle nofun h
  | .object _, h => isLeaf_of_isSingle nofun h

/-- What a list is flattened to are its leaves. -/
theorem isLeaf_of_mem_flatten : ∀ xs : List Value, v ∈ flatten xs → IsLeaf v xs
  | [], h => absurd h List.not_mem_nil
  | u :: rest, h => by
    rw [flatten, List.mem_append] at h
    rw [isLeaf_cons_iff]
    exact h.imp (isLeaf_of_mem_leaves u) (isLeaf_of_mem_flatten rest)

end

/-- **A list is flattened to its leaves.** -/
theorem mem_flatten_iff : v ∈ flatten xs ↔ IsLeaf v xs := by
  constructor
  · exact isLeaf_of_mem_flatten xs
  · intro h
    induction h with
    | head hv =>
      rw [flatten, leaves_of_isSingle hv]
      exact List.mem_append_left _ (List.mem_singleton_self v)
    | inside _ ih =>
      rw [flatten, leaves]
      exact List.mem_append_left _ ih
    | tail _ ih =>
      rw [flatten]
      exact List.mem_append_right _ ih

/-- **No array is left** in a list that is flattened. -/
theorem isSingle_of_mem_flatten (h : v ∈ flatten xs) : v.IsSingle :=
  (mem_flatten_iff.mp h).isSingle

/-- **Two lists are flattened one after the other.** -/
@[simp] theorem flatten_append (xs ys : List Value) :
    flatten (xs ++ ys) = flatten xs ++ flatten ys := by
  induction xs with
  | nil => rfl
  | cons v rest ih => rw [List.cons_append, flatten, ih, flatten, List.append_assoc]

/-- An array is flattened to what it holds. -/
theorem flatten_array (xs ys : List Value) :
    flatten (.array xs :: ys) = flatten xs ++ flatten ys := by
  rw [flatten, leaves]

/-- **Where an array starts and ends makes no difference.** -/
theorem flatten_regroup (xs ys zs : List Value) :
    flatten (xs ++ [.array ys] ++ zs) = flatten (xs ++ ys ++ zs) := by
  have hone : flatten [.array ys] = flatten ys := by
    rw [flatten_array, flatten, List.append_nil]
  simp only [flatten_append, hone]

/-- **Flattening changes nothing but arrays**: a list is flat already if it holds none. -/
theorem flatten_eq_self_iff : flatten xs = xs ↔ ∀ v ∈ xs, v.IsSingle := by
  constructor
  · intro h v hv
    rw [← h] at hv
    exact isSingle_of_mem_flatten hv
  · intro h
    induction xs with
    | nil => rfl
    | cons v rest ih =>
      rw [flatten, leaves_of_isSingle (h v (by simp)), ih fun u hu => h u (List.mem_cons_of_mem v hu)]
      rfl

/-- **Flattening is done once.** -/
@[simp] theorem flatten_flatten (xs : List Value) : flatten (flatten xs) = flatten xs := by
  rw [flatten_eq_self_iff]
  intro v hv
  exact isSingle_of_mem_flatten hv

end flattening

/-! ### Other orders and other arrays -/

section rearranging

variable {v : Value} {xs ys : List Value}

/-- The lists hold the same values in another order or in other arrays, at any depth. -/
inductive Rearranged : List Value → List Value → Prop where
  /-- Nothing is changed. -/
  | refl (xs : List Value) : Rearranged xs xs
  /-- What follows a value is changed. -/
  | tail (v : Value) {xs ys : List Value} (h : Rearranged xs ys) : Rearranged (v :: xs) (v :: ys)
  /-- Two values are exchanged. -/
  | swap (u v : Value) (xs : List Value) : Rearranged (u :: v :: xs) (v :: u :: xs)
  /-- What an array holds is changed. -/
  | inside {xs ys : List Value} (zs : List Value) (h : Rearranged xs ys) :
    Rearranged (.array xs :: zs) (.array ys :: zs)
  /-- Values are put into an array. -/
  | group (xs zs : List Value) : Rearranged (xs ++ zs) (.array xs :: zs)
  /-- A change is undone. -/
  | symm {xs ys : List Value} (h : Rearranged xs ys) : Rearranged ys xs
  /-- One change after another. -/
  | trans {xs ys zs : List Value} (h : Rearranged xs ys) (h' : Rearranged ys zs) :
    Rearranged xs zs

/-- **The leaves of lists that are rearranged are the same.** -/
theorem Rearranged.isLeaf_iff (h : Rearranged xs ys) : IsLeaf v xs ↔ IsLeaf v ys := by
  induction h with
  | refl xs => rfl
  | tail u _ ih => rw [isLeaf_cons_iff, ih, ← isLeaf_cons_iff]
  | swap u w xs =>
    rw [isLeaf_cons_iff, isLeaf_cons_iff (u := w), or_left_comm, ← isLeaf_cons_iff,
      ← isLeaf_cons_iff]
  | inside zs _ ih => rw [isLeaf_array_iff, ih, ← isLeaf_array_iff]
  | group xs zs => rw [isLeaf_array_iff, isLeaf_append_iff]
  | symm _ ih => exact ih.symm
  | trans _ _ ih ih' => exact ih.trans ih'

end rearranging

end Value

end RecordFormula
