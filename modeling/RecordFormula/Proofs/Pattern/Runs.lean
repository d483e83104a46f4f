import Mathlib.Data.Finset.Prod
import RecordFormula.Pattern.Search

/-!
# Runs of programs

A program is run depth first, and what has been run once is not run again at the same place.

* `Pattern.Run` — a run of so many steps up to a state that accepts.
* `Pattern.Closed` — what marks and stack have in common while a program is run: a marked pair of an
  address and a place does not accept, and leads only to what is marked or on the stack.
* **What is found ends a run** (`Pattern.exists_run_of_explore`); **where nothing is found, the marks
  are closed under steps** (`Pattern.explored_of_explore`), **and no run starts at any of them**
  (`Pattern.Closed.no_run`).
* **A search finds the first start of a run** (`Pattern.exists_run_of_findProgram?`,
  `Pattern.no_run_of_findProgram?`).
-/

namespace RecordFormula

namespace Pattern

variable {program : Array Instruction} {text : Array Char} {n start : Nat} {t u w : Thread}
  {stack : List Thread} {marks marks' : Marks}

/-! ### Steps -/

/-- A run of so many steps from a state to one that accepts. -/
inductive Run (program : Array Instruction) (text : Array Char) : Nat → Thread → Thread → Prop where
  /-- The state accepts. -/
  | done {t : Thread} (h : program[t.address]? = some .accept) : Run program text 0 t t
  /-- A step leads to a state from which the run goes on. -/
  | step {n : Nat} {t u w : Thread} {i : Instruction} (hi : program[t.address]? = some i)
      (hu : u ∈ t.next text i) (hrun : Run program text n u w) : Run program text (n + 1) t w

/-- The address and the place of a state. -/
def Thread.key (t : Thread) : Nat × Nat := (t.address, t.place)

/-- Where the steps from a state lead depends on its address and its place, not on what it keeps. -/
theorem map_key_next {v : Thread} (hkey : v.key = t.key) (i : Instruction) :
    (v.next text i).map Thread.key = (t.next text i).map Thread.key := by
  obtain ⟨ha, hp⟩ : v.address = t.address ∧ v.place = t.place := by
    simpa [Thread.key] using hkey
  cases i with
  | take s =>
    simp only [Thread.next, ha, hp]
    split
    · split_ifs <;> rfl
    · rfl
  | check p =>
    simp only [Thread.next, ha, hp]
    split_ifs <;> rfl
  | _ => simp [Thread.next, Thread.key, ha, hp]

/-- No step leads to more than two states. -/
theorem length_next_le (t : Thread) (i : Instruction) : (t.next text i).length ≤ 2 := by
  cases i <;> simp only [Thread.next] <;> (repeat' split) <;> simp

/-- No step leads out of the text. -/
theorem place_le_of_mem_next {i : Instruction} (hu : u ∈ t.next text i)
    (ht : t.place ≤ text.size) : u.place ≤ text.size := by
  cases i with
  | take s =>
    by_cases hlt : t.place < text.size
    · simp only [Thread.next, Array.getElem?_eq_getElem hlt] at hu
      split_ifs at hu
      · rw [List.mem_singleton.mp hu]
        exact hlt
      · simp at hu
    · simp [Thread.next, Array.getElem?_eq_none (by omega : text.size ≤ t.place)] at hu
  | check p =>
    simp only [Thread.next] at hu
    split_ifs at hu
    · rw [List.mem_singleton.mp hu]
      exact ht
    · simp at hu
  | keep slot =>
    rw [Thread.next, List.mem_singleton] at hu
    rw [hu]
    exact ht
  | fork preferred other =>
    simp only [Thread.next, List.mem_cons, List.not_mem_nil, or_false] at hu
    rcases hu with rfl | rfl <;> exact ht
  | jump target =>
    rw [Thread.next, List.mem_singleton] at hu
    rw [hu]
    exact ht
  | accept => simp [Thread.next] at hu

/-! ### What is found -/

/-- **What is found ends a run** that starts at a state of the stack. -/
theorem exists_run_of_explore (h : (explore program text n stack marks).1 = some w) :
    ∃ t ∈ stack, ∃ k, Run program text k t w := by
  induction n generalizing stack marks with
  | zero => simp [explore] at h
  | succ n ih =>
    cases stack with
    | nil => simp [explore] at h
    | cons t stack =>
      have hrest : (explore program text n stack marks).1 = some w →
          ∃ u ∈ t :: stack, ∃ k, Run program text k u w := by
        intro h
        obtain ⟨u, hu, hrun⟩ := ih h
        exact ⟨u, List.mem_cons_of_mem t hu, hrun⟩
      rw [explore] at h
      split_ifs at h
      · exact hrest h
      · split at h
        · exact hrest h
        · next hi =>
          obtain rfl : t = w := by simpa using h
          exact ⟨t, List.mem_cons_self, 0, .done hi⟩
        · next i _ hi =>
          obtain ⟨u, hu, k, hrun⟩ := ih h
          rcases List.mem_append.mp hu with hu | hu
          · exact ⟨t, List.mem_cons_self, k + 1, .step hi hu hrun⟩
          · exact ⟨u, List.mem_cons_of_mem t hu, k, hrun⟩

/-! ### Where nothing is found -/

/-- A state that is marked or on the stack, or has no instruction. -/
def Met (program : Array Instruction) (stack : List Thread) (marks : Marks) (u : Thread) : Prop :=
  u.key ∈ marks ∨ program[u.address]? = none ∨ ∃ v ∈ stack, v.key = u.key

/-- A marked pair of an address and a place does not accept, and leads only to what is marked or on
the stack. -/
def Closed (program : Array Instruction) (text : Array Char) (stack : List Thread) (marks : Marks) :
    Prop :=
  ∀ t : Thread, t.key ∈ marks → ∃ i, program[t.address]? = some i ∧ i ≠ .accept ∧
    ∀ u ∈ t.next text i, Met program stack marks u

/-- Nothing is marked at first. -/
theorem closed_empty : Closed program text [] ∅ := by
  intro t ht
  exact absurd ht Std.HashSet.not_mem_empty

/-- **No run starts at a marked pair** when the stack is empty. -/
theorem Closed.no_run (h : Closed program text [] marks) (ht : Met program [] marks t) :
    ¬ Run program text n t w := by
  intro hrun
  have hmarked : ∀ {t : Thread} {i : Instruction}, program[t.address]? = some i →
      Met program [] marks t → t.key ∈ marks := by
    intro t i hi ht
    rcases ht with ht | ht | ⟨v, hv, -⟩
    · exact ht
    · simp [ht] at hi
    · simp at hv
  induction hrun with
  | done hi =>
    obtain ⟨j, hj, hne, -⟩ := h _ (hmarked hi ht)
    exact hne (Option.some.inj (hj.symm.trans hi))
  | step hi hu _ ih =>
    obtain ⟨j, hj, -, hnext⟩ := h _ (hmarked hi ht)
    obtain rfl := Option.some.inj (hj.symm.trans hi)
    exact ih (hnext _ hu)

/-- What has been met stays met when the stack changes, as long as its states are met. -/
theorem Met.of_stack {stack' : List Thread} (hu : Met program stack marks u)
    (hmarks : ∀ k ∈ marks, k ∈ marks') (hstack : ∀ v ∈ stack, Met program stack' marks' v) :
    Met program stack' marks' u := by
  rcases hu with hu | hu | ⟨v, hv, hkey⟩
  · exact .inl (hmarks _ hu)
  · exact .inr (.inl hu)
  · have haddress : v.address = u.address := congrArg Prod.fst hkey
    rcases hstack v hv with hmet | hmet | ⟨x, hx, hxkey⟩
    · exact .inl (hkey ▸ hmet)
    · exact .inr (.inl (haddress ▸ hmet))
    · exact .inr (.inr ⟨x, hx, hxkey.trans hkey⟩)

/-- A state that has been met may be taken from the stack. -/
theorem Closed.tail (h : Closed program text (t :: stack) marks) (ht : Met program stack marks t) :
    Closed program text stack marks := by
  intro v hv
  obtain ⟨i, hi, hne, hnext⟩ := h v hv
  refine ⟨i, hi, hne, fun u hu => (hnext u hu).of_stack (fun _ hk => hk) ?_⟩
  intro x hx
  rcases List.mem_cons.mp hx with rfl | hx
  · exact ht
  · exact .inr (.inr ⟨x, hx, rfl⟩)

/-- A state may be marked if the states after it come onto the stack. -/
theorem Closed.insert {i : Instruction} (h : Closed program text (t :: stack) marks)
    (hi : program[t.address]? = some i) (hne : i ≠ .accept) :
    Closed program text (t.next text i ++ stack) (marks.insert t.key) := by
  intro v hv
  rcases Std.HashSet.mem_insert.mp hv with hkey | hv
  · have hkey : t.key = v.key := eq_of_beq hkey
    have haddress : t.address = v.address := congrArg Prod.fst hkey
    refine ⟨i, haddress ▸ hi, hne, fun u hu => ?_⟩
    have hmem : u.key ∈ (t.next text i).map Thread.key := by
      rw [map_key_next hkey]
      exact List.mem_map_of_mem hu
    obtain ⟨x, hx, hxkey⟩ := List.mem_map.mp hmem
    exact .inr (.inr ⟨x, List.mem_append_left _ hx, hxkey⟩)
  · obtain ⟨j, hj, hjne, hnext⟩ := h v hv
    refine ⟨j, hj, hjne, fun u hu => (hnext u hu).of_stack ?_ ?_⟩
    · intro k hk
      exact Std.HashSet.mem_insert.mpr (.inr hk)
    · intro x hx
      rcases List.mem_cons.mp hx with rfl | hx
      · exact .inl Std.HashSet.mem_insert_self
      · exact .inr (.inr ⟨x, List.mem_append_right _ hx, rfl⟩)

/-- The number of pairs of an address and a place that are not marked. -/
def unmarked (program : Array Instruction) (text : Array Char) (marks : Marks) : Nat :=
  ((Finset.range program.size ×ˢ Finset.range (text.size + 1)).filter (· ∉ marks)).card

/-- A pair that is marked is one less. -/
theorem unmarked_insert_lt (hmark : t.key ∉ marks) (haddress : t.address < program.size)
    (hplace : t.place ≤ text.size) :
    unmarked program text (marks.insert t.key) < unmarked program text marks := by
  refine Finset.card_lt_card (Finset.ssubset_iff_of_subset ?_ |>.mpr ⟨t.key, ?_, ?_⟩)
  · intro k hk
    rw [Finset.mem_filter] at hk ⊢
    exact ⟨hk.1, fun h => hk.2 (Std.HashSet.mem_insert.mpr (.inr h))⟩
  · simp only [Finset.mem_filter, Finset.mem_product, Finset.mem_range]
    exact ⟨⟨haddress, Nat.lt_succ_of_le hplace⟩, hmark⟩
  · simp

/-- There are enough steps to start from one state. -/
theorem two_mul_unmarked_lt (marks : Marks) :
    2 * unmarked program text marks + 1 ≤ stepLimit program text := by
  have hcard : unmarked program text marks ≤ program.size * (text.size + 1) := by
    refine (Finset.card_filter_le _ _).trans ?_
    rw [Finset.card_product, Finset.card_range, Finset.card_range]
  unfold stepLimit
  omega

/-- What holds of the marks when the states of the stack and all that they lead to have been run. -/
structure Explored (program : Array Instruction) (text : Array Char) (stack : List Thread)
    (marks marks' : Marks) : Prop where
  /-- The marks are closed under steps. -/
  closed : Closed program text [] marks'
  /-- All states of the stack have been met. -/
  met : ∀ t ∈ stack, Met program [] marks' t
  /-- What was marked before still is. -/
  grown : ∀ k ∈ marks, k ∈ marks'

/-- A state may be left out that is marked or has no instruction. -/
theorem Explored.skip (h : Explored program text stack marks marks')
    (ht : t.key ∈ marks ∨ program[t.address]? = none) :
    Explored program text (t :: stack) marks marks' := by
  refine ⟨h.closed, fun u hu => ?_, h.grown⟩
  rcases List.mem_cons.mp hu with rfl | hu
  · exact ht.imp (h.grown _) .inl
  · exact h.met u hu

/-- A state is done when it is marked and the states after it are done. -/
theorem Explored.next {i : Instruction}
    (h : Explored program text (t.next text i ++ stack) (marks.insert t.key) marks') :
    Explored program text (t :: stack) marks marks' := by
  have hgrown : ∀ k ∈ marks, k ∈ marks' := fun k hk =>
    h.grown k (Std.HashSet.mem_insert.mpr (.inr hk))
  refine ⟨h.closed, fun u hu => ?_, hgrown⟩
  rcases List.mem_cons.mp hu with rfl | hu
  · exact .inl (h.grown _ Std.HashSet.mem_insert_self)
  · exact h.met u (List.mem_append_right _ hu)

/-- **Where nothing is found, everything has been explored**, given enough steps. -/
theorem explored_of_explore (h : explore program text n stack marks = (none, marks'))
    (hsteps : 2 * unmarked program text marks + stack.length ≤ n)
    (hplaces : ∀ t ∈ stack, t.place ≤ text.size) (hclosed : Closed program text stack marks) :
    Explored program text stack marks marks' := by
  induction n generalizing stack marks with
  | zero =>
    obtain rfl : stack = [] := List.length_eq_zero_iff.mp (by omega)
    obtain rfl : marks = marks' := by simpa [explore] using h
    exact ⟨hclosed, by simp, fun _ hk => hk⟩
  | succ n ih =>
    cases stack with
    | nil =>
      obtain rfl : marks = marks' := by simpa [explore] using h
      exact ⟨hclosed, by simp, fun _ hk => hk⟩
    | cons t stack =>
      have hplace := hplaces t List.mem_cons_self
      have hrest : ∀ u ∈ stack, u.place ≤ text.size := fun u hu =>
        hplaces u (List.mem_cons_of_mem t hu)
      rw [List.length_cons] at hsteps
      have hskip : explore program text n stack marks = (none, marks') →
          t.key ∈ marks ∨ program[t.address]? = none →
          Explored program text (t :: stack) marks marks' := by
        intro h ht
        have hmet : Met program stack marks t := ht.imp_right .inl
        exact (ih h (by omega) hrest (hclosed.tail hmet)).skip ht
      rw [explore] at h
      split_ifs at h with hmark
      · exact hskip h (.inl (Std.HashSet.contains_iff_mem.mp hmark))
      · split at h
        · next hi => exact hskip h (.inr hi)
        · simp at h
        · next i hne hi =>
          have haddress : t.address < program.size := (Array.getElem?_eq_some_iff.mp hi).1
          have hless : unmarked program text (marks.insert t.key) < unmarked program text marks :=
            unmarked_insert_lt (fun hk => hmark (Std.HashSet.contains_iff_mem.mpr hk)) haddress hplace
          have hlength : (t.next text i).length ≤ 2 := length_next_le t i
          refine (ih h ?_ ?_ (hclosed.insert hi hne)).next
          · rw [List.length_append]
            show 2 * unmarked program text (marks.insert t.key) + _ ≤ n
            omega
          · intro u hu
            rcases List.mem_append.mp hu with hu | hu
            · exact place_le_of_mem_next hu hplace
            · exact hrest u hu

/-! ### Searching -/

/-- What is found starts at one of the places, and a run from there ends in it. -/
theorem exists_run_of_findProgram? {m : Match} (h : findProgram? program text n start marks = some m) :
    start ≤ m.start ∧ ∃ k a, Run program text k ⟨0, m.start, []⟩ ⟨a, m.stop, m.kept⟩ := by
  induction n generalizing start marks with
  | zero => simp [findProgram?] at h
  | succ n ih =>
    rw [findProgram?] at h
    split at h
    · next t marks' hfound =>
      obtain ⟨u, hu, k, hrun⟩ := exists_run_of_explore (congrArg Prod.fst hfound)
      obtain rfl := List.mem_singleton.mp hu
      obtain rfl := Option.some.inj h
      exact ⟨le_rfl, k, t.address, hrun⟩
    · obtain ⟨hstart, hrun⟩ := ih h
      exact ⟨by omega, hrun⟩

/-- **A search finds the first start of a run**: from no place before what is found, and from none
at all if nothing is found, a run starts. -/
theorem no_run_of_findProgram? (hclosed : Closed program text [] marks)
    (hbound : start + n ≤ text.size + 1) {s : Nat} (hs : start ≤ s) (hn : s < start + n)
    (hfirst : ∀ m ∈ findProgram? program text n start marks, s < m.start) {k : Nat} :
    ¬ Run program text k ⟨0, s, []⟩ w := by
  induction n generalizing start marks with
  | zero => omega
  | succ n ih =>
    rw [findProgram?] at hfirst
    split at hfirst
    · next t marks' hfound => exact absurd (hfirst _ rfl) (by simp; omega)
    · next marks' hnone =>
      have hstack : Closed program text [⟨0, start, []⟩] marks := by
        intro t ht
        obtain ⟨i, hi, hne, hnext⟩ := hclosed t ht
        exact ⟨i, hi, hne, fun u hu => (hnext u hu).of_stack (fun _ hk => hk) (by simp)⟩
      have hdone := explored_of_explore hnone (two_mul_unmarked_lt marks) (by simp; omega) hstack
      rcases Nat.eq_or_lt_of_le hs with rfl | hlt
      · exact hdone.closed.no_run (hdone.met _ List.mem_cons_self)
      · exact ih hdone.closed (by omega) hlt (by omega) hfirst

end Pattern

end RecordFormula
