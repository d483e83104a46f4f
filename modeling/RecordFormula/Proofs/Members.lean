import Mathlib.Data.List.Sort
import Mathlib.Tactic.Common
import RecordFormula.Members

/-!
# Members in order

What adding a member does to a map, and that a map is made of its own members.

* `Members.find?_insert`, `Members.mem_keys_insert`, `Members.mem_keys_ofList` — what is found, and
  under which keys.
* **Adding a member keeps the keys in order** (`Members.ordered_insert`), so that a map made of any
  list of members is in order (`Members.ordered_ofList`).
* **A map in order is made of its own members** (`Members.ofList_eq_self_iff`).
* **A map in order is determined by what is found in it** (`Members.eq_of_find?_eq`), so that
  members with different keys can be put together in any order (`Members.ofList_perm`).
* **Changing the values and making a map go together** (`Members.ofList_map`).
* **The distinct texts of a list are its texts** (`mem_distinctTexts`).
-/

namespace RecordFormula

namespace Members

variable {α β : Type} {k key : String} {v : α} {m m' : Members α}

/-! ### Adding a member -/

/-- What is found after a member has been added. -/
theorem find?_insert (k key : String) (v : α) :
    ∀ m : Members α, find? k (insert key v m) = if k = key then some v else find? k m
  | [] => rfl
  | (k', w) :: rest => by
    have ih := find?_insert k key v rest
    rw [insert]
    by_cases hlt : key < k'
    · by_cases hk : k = key <;> simp [hlt, find?, hk]
    · by_cases heq : key = k'
      · by_cases hk : k = k' <;> simp [heq, find?, hk]
      · by_cases hk : k = k' <;> simp [hlt, heq, find?, hk, ih, Ne.symm heq]

/-- The keys after a member has been added. -/
theorem mem_keys_insert (m : Members α) : k ∈ keys (insert key v m) ↔ k = key ∨ k ∈ keys m := by
  induction m with
  | nil => simp [insert, keys]
  | cons p rest ih =>
    obtain ⟨k', w⟩ := p
    simp only [keys] at ih
    rw [insert]
    split_ifs with hlt heq
    · simp [keys]
    · simp [keys, heq]
    · simp only [keys, List.map_cons, List.mem_cons, ih]
      tauto

/-- The keys of a map are those of the list that it is made of. -/
theorem mem_keys_ofList (pairs : List (String × α)) :
    k ∈ keys (ofList pairs) ↔ ∃ p ∈ pairs, p.1 = k := by
  have hfold : ∀ m : Members α,
      k ∈ keys (pairs.foldl (fun m p => insert p.1 p.2 m) m) ↔
        (∃ p ∈ pairs, p.1 = k) ∨ k ∈ keys m := by
    induction pairs with
    | nil => simp
    | cons p rest ih =>
      intro m
      rw [List.foldl_cons, ih, mem_keys_insert]
      simp only [List.mem_cons, exists_eq_or_imp, eq_comm (a := k)]
      exact or_left_comm.trans or_assoc.symm
  rw [ofList, hfold]
  simp [keys]

/-! ### Order -/

/-- The keys behind a member come after its key. -/
theorem ordered_cons {p : String × α} :
    Ordered (p :: m) ↔ (∀ k ∈ keys m, p.1 < k) ∧ Ordered m := List.pairwise_cons

/-- **Adding a member keeps the keys in order.** -/
theorem ordered_insert (key : String) (v : α) (h : Ordered m) : Ordered (insert key v m) := by
  induction m with
  | nil => exact List.pairwise_singleton ..
  | cons p rest ih =>
    obtain ⟨k, w⟩ := p
    obtain ⟨hrest, horder⟩ := ordered_cons.mp h
    rw [insert]
    by_cases hlt : key < k
    · rw [if_pos hlt]
      refine ordered_cons.mpr ⟨?_, h⟩
      intro k' hk'
      rcases List.mem_cons.mp hk' with rfl | hk'
      · exact hlt
      · exact String.lt_trans hlt (hrest k' hk')
    · rw [if_neg hlt]
      by_cases heq : key = k
      · rw [if_pos heq]
        exact ordered_cons.mpr ⟨fun k' hk' => heq ▸ hrest k' hk', horder⟩
      · rw [if_neg heq]
        refine ordered_cons.mpr ⟨?_, ih horder⟩
        intro k' hk'
        rcases (mem_keys_insert rest).mp hk' with rfl | hk'
        · exact Std.lt_of_le_of_ne (String.not_lt.mp hlt) (Ne.symm heq)
        · exact hrest k' hk'

/-- A map made of any list of members is in order. -/
theorem ordered_ofList (pairs : List (String × α)) : Ordered (ofList pairs) := by
  have hfold : ∀ m : Members α, Ordered m →
      Ordered (pairs.foldl (fun m p => insert p.1 p.2 m) m) := by
    induction pairs with
    | nil => exact fun m hm => hm
    | cons p rest ih => exact fun m hm => ih _ (ordered_insert p.1 p.2 hm)
  exact hfold [] List.Pairwise.nil

/-- A member whose key comes after all others goes to the end. -/
theorem insert_eq_append (h : ∀ k ∈ keys m, k < key) : insert key v m = m ++ [(key, v)] := by
  induction m with
  | nil => rfl
  | cons p rest ih =>
    obtain ⟨k, w⟩ := p
    have hk : k < key := h k (by simp [keys])
    have hne : ¬ key = k := fun heq => String.lt_irrefl k (heq ▸ hk)
    rw [insert, if_neg (String.lt_asymm hk), if_neg hne, ih fun k' hk' => h k' (.tail _ hk')]
    rfl

/-- **A list of members is in order exactly if it is the map that is made of it.** -/
theorem ofList_eq_self_iff : ofList m = m ↔ Ordered m := by
  constructor
  · intro h
    rw [← h]
    exact ordered_ofList m
  · have hfold : ∀ before : Members α, Ordered (before ++ m) →
        m.foldl (fun m p => insert p.1 p.2 m) before = before ++ m := by
      induction m with
      | nil => intro before _; simp
      | cons p rest ih =>
        intro before h
        have hbefore : ∀ k ∈ keys before, k < p.1 := by
          intro k hk
          rw [Ordered, List.map_append, List.pairwise_append] at h
          exact h.2.2 k hk p.1 (by simp)
        rw [List.foldl_cons, insert_eq_append hbefore,
          ih (before ++ [(p.1, p.2)]) (by simpa using h)]
        simp
    exact hfold []

/-! ### Finding members -/

/-- What is found under a key is a member. -/
theorem mem_of_find? : ∀ {m : Members α}, find? k m = some v → (k, v) ∈ m
  | [], h => by simp [find?] at h
  | (k', w) :: rest, h => by
    rw [find?] at h
    split_ifs at h with hk
    · obtain rfl := Option.some.inj h
      simp [hk]
    · exact List.mem_cons_of_mem _ (mem_of_find? h)

/-- What is found in a map in order are its members. -/
theorem find?_eq_some_iff (h : Ordered m) : find? k m = some v ↔ (k, v) ∈ m := by
  refine ⟨mem_of_find?, fun hmem => ?_⟩
  induction m with
  | nil => cases hmem
  | cons p rest ih =>
    obtain ⟨k', w⟩ := p
    obtain ⟨hbehind, hrest⟩ := ordered_cons.mp h
    rw [find?]
    rcases List.mem_cons.mp hmem with hhead | hmem
    · obtain ⟨rfl, rfl⟩ := Prod.mk.inj hhead
      exact if_pos rfl
    · have hlt : k' < k := hbehind k (List.mem_map.mpr ⟨(k, v), hmem, rfl⟩)
      have hne : k ≠ k' := by
        rintro rfl
        exact String.lt_irrefl k hlt
      rw [if_neg hne, ih hrest hmem]

/-- **A map in order is determined by what is found in it.** -/
theorem eq_of_find?_eq (h : Ordered m) (h' : Ordered m') (hfind : ∀ k, find? k m = find? k m') :
    m = m' := by
  let before (p q : String × α) : Prop := p.1 < q.1
  have : Std.Irrefl before := ⟨fun p => String.lt_irrefl p.1⟩
  have : Std.Antisymm before := ⟨fun p q hpq hqp => absurd hqp (String.lt_asymm hpq)⟩
  refine List.Pairwise.eq_of_mem_iff (r := before) (List.pairwise_map.mp h)
    (List.pairwise_map.mp h') ?_
  rintro ⟨k, v⟩
  rw [← find?_eq_some_iff h, hfind, find?_eq_some_iff h']

/-- What is found in a map made of members with different keys are these members. -/
theorem find?_ofList_eq_some_iff {pairs : List (String × α)} (hkeys : (pairs.map (·.1)).Nodup) :
    find? k (ofList pairs) = some v ↔ (k, v) ∈ pairs := by
  have hfold : ∀ m : Members α, find? k (pairs.foldl (fun m p => insert p.1 p.2 m) m) = some v ↔
      (k, v) ∈ pairs ∨ k ∉ pairs.map (·.1) ∧ find? k m = some v := by
    induction pairs with
    | nil => simp
    | cons p rest ih =>
      intro m
      obtain ⟨k', w⟩ := p
      obtain ⟨hnew, hkeys⟩ := List.nodup_cons.mp hkeys
      rw [List.foldl_cons, ih hkeys, find?_insert]
      by_cases hk : k = k'
      · subst hk
        have hmem : (k, v) ∉ rest := fun hmem =>
          hnew (List.mem_map.mpr ⟨(k, v), hmem, rfl⟩)
        simp [hmem, hnew, eq_comm]
      · simp [hk]
  rw [ofList, hfold []]
  simp [find?]

/-- **Members with different keys can be put together in any order.** -/
theorem ofList_perm {pairs pairs' : List (String × α)} (hperm : pairs.Perm pairs')
    (hkeys : (pairs.map (·.1)).Nodup) : ofList pairs = ofList pairs' := by
  have hkeys' : (pairs'.map (·.1)).Nodup := (hperm.map _).nodup_iff.mp hkeys
  refine eq_of_find?_eq (ordered_ofList _) (ordered_ofList _) fun k => Option.ext fun v => ?_
  rw [find?_ofList_eq_some_iff hkeys, find?_ofList_eq_some_iff hkeys', hperm.mem_iff]

/-! ### Changing the values -/

/-- Changing the values and adding a member go together. -/
theorem insert_map (f : α → β) (key : String) (v : α) (m : Members α) :
    (insert key v m).map (fun p => (p.1, f p.2)) =
      insert key (f v) (m.map fun p => (p.1, f p.2)) := by
  induction m with
  | nil => rfl
  | cons p rest ih =>
    obtain ⟨k, w⟩ := p
    simp only [insert, List.map_cons]
    split_ifs
    · rfl
    · rfl
    · rw [List.map_cons, ih]

/-- **Changing the values and making a map go together.** -/
theorem ofList_map (f : α → β) (pairs : List (String × α)) :
    ofList (pairs.map fun p => (p.1, f p.2)) = (ofList pairs).map fun p => (p.1, f p.2) := by
  have hfold : ∀ m : Members α,
      (pairs.map fun p => (p.1, f p.2)).foldl (fun m p => insert p.1 p.2 m)
          (m.map fun p => (p.1, f p.2)) =
        (pairs.foldl (fun m p => insert p.1 p.2 m) m).map fun p => (p.1, f p.2) := by
    induction pairs with
    | nil => exact fun m => rfl
    | cons p rest ih =>
      intro m
      rw [List.map_cons, List.foldl_cons, List.foldl_cons]
      dsimp only
      rw [← insert_map, ih]
  exact hfold []

end Members

/-- A text is among the distinct texts of a list exactly if it stands in the list. -/
@[simp] theorem mem_distinctTexts {k : String} {texts : List String} :
    k ∈ distinctTexts texts ↔ k ∈ texts := by
  rw [distinctTexts, Members.mem_keys_ofList]
  simp

end RecordFormula
