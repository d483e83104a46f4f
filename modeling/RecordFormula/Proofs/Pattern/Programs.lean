import RecordFormula.Proofs.Pattern.Matches
import RecordFormula.Proofs.Pattern.Runs

/-!
# What a program matches

The instructions of a node lead from one place in a text to another where the node does.

* `Pattern.CodeAt` — where some instructions stand in a program.
* `Pattern.Implements` — a run through some instructions leads from one spot to another exactly if
  they are related. **The instructions of every node implement its relation**
  (`Pattern.Node.implements`).
* **A search finds the first match** (`Pattern.Node.matches_of_find?`,
  `Pattern.Node.not_matches_of_find?`).
-/

namespace RecordFormula

namespace Pattern

/-! ### Instructions at an address -/

/-- The instructions stand in the program from an address on. -/
def CodeAt (program : Array Instruction) : Nat → List Instruction → Prop
  | _, [] => True
  | start, i :: rest => program[start]? = some i ∧ CodeAt program (start + 1) rest

variable {program : Array Instruction} {text : Array Char}

/-- Two pieces stand one after the other. -/
theorem codeAt_append {start : Nat} {xs ys : List Instruction} :
    CodeAt program start (xs ++ ys) ↔
      CodeAt program start xs ∧ CodeAt program (start + xs.length) ys := by
  induction xs generalizing start with
  | nil => simp [CodeAt]
  | cons i rest ih =>
    have hlength : start + (i :: rest).length = start + 1 + rest.length := by
      rw [List.length_cons]
      omega
    rw [List.cons_append, CodeAt, CodeAt, ih, hlength, and_assoc]

/-- A program stands where it starts. -/
theorem codeAt_toArray (pre code : List Instruction) :
    CodeAt (pre ++ code).toArray pre.length code := by
  induction code generalizing pre with
  | nil => trivial
  | cons i rest ih =>
    refine ⟨by simp, ?_⟩
    have h := ih (pre ++ [i])
    rwa [List.append_assoc, List.singleton_append, List.length_append] at h

/-! ### Runs through instructions -/

section runs

variable {k x y address : Nat} {t w : Thread} {a : Spot} {i : Instruction} {greedy : Bool}

/-- A run that does not end at once makes a step. -/
theorem Run.exists_next (h : Run program text k t w) (hi : program[t.address]? = some i)
    (hne : i ≠ .accept) : ∃ u ∈ t.next text i, ∃ j < k, Run program text j u w := by
  cases h with
  | done hj => exact absurd (Option.some.inj (hi.symm.trans hj)) hne
  | step hj hu hrun =>
    obtain rfl := Option.some.inj (hi.symm.trans hj)
    exact ⟨_, hu, _, Nat.lt_succ_self _, hrun⟩

/-- A branch leads to both of its addresses, whichever it prefers. -/
theorem mem_next_branch {u : Thread} :
    u ∈ (a.thread address).next text (.branch greedy x y) ↔ u = a.thread x ∨ u = a.thread y := by
  cases greedy
  · simp [Instruction.branch, Thread.next, Spot.thread, or_comm]
  · simp [Instruction.branch, Thread.next, Spot.thread]

/-- A branch accepts nothing. -/
theorem branch_ne_accept : Instruction.branch greedy x y ≠ .accept := by
  cases greedy <;> simp [Instruction.branch]

/-- A run from a branch goes on at one of its addresses. -/
theorem Run.of_branch (hi : program[address]? = some (.branch greedy x y))
    (h : Run program text k (a.thread address) w) :
    ∃ j < k, Run program text j (a.thread x) w ∨ Run program text j (a.thread y) w := by
  obtain ⟨u, hu, j, hj, hrun⟩ := h.exists_next hi branch_ne_accept
  rcases mem_next_branch.mp hu with rfl | rfl
  · exact ⟨j, hj, .inl hrun⟩
  · exact ⟨j, hj, .inr hrun⟩

/-- A run from one of its addresses may start at a branch. -/
theorem Run.branch (hi : program[address]? = some (.branch greedy x y))
    (h : Run program text k (a.thread x) w ∨ Run program text k (a.thread y) w) :
    Run program text (k + 1) (a.thread address) w := by
  rcases h with h | h
  · exact .step hi (mem_next_branch.mpr (.inl rfl)) h
  · exact .step hi (mem_next_branch.mpr (.inr rfl)) h

end runs

/-! ### Implementing a relation -/

/-- So many instructions implement a relation: a run through them leads from one spot to another
exactly if the spots are related. What is left of a run that leaves them is not longer. -/
structure Implements (program : Array Instruction) (text : Array Char)
    (code : Nat → List Instruction) (size : Nat) (r : Spot → Spot → Prop) : Prop where
  /-- The number of instructions. -/
  length_eq : ∀ start, (code start).length = size
  /-- A run from the first instruction goes on behind the last one. -/
  exits : ∀ {start k a w}, CodeAt program start (code start) →
    Run program text k (a.thread start) w →
    ∃ b, r a b ∧ ∃ j ≤ k, Run program text j (b.thread (start + size)) w
  /-- A run from behind the last instruction may start at the first one. -/
  enters : ∀ {start k a b w}, CodeAt program start (code start) → r a b →
    Run program text k (b.thread (start + size)) w →
    ∃ j, Run program text j (a.thread start) w

namespace Implements

variable {code code' : Nat → List Instruction} {size size' n : Nat} {r r' : Spot → Spot → Prop}

/-- What is implemented may be said in another way. -/
theorem congr (h : Implements program text code size r) (hcode : ∀ start, code' start = code start)
    (hsize : size' = size) (hr : ∀ a b, r' a b ↔ r a b) :
    Implements program text code' size' r' := by
  obtain rfl : code' = code := funext hcode
  obtain rfl : r' = r := funext fun a => funext fun b => propext (hr a b)
  rw [hsize]
  exact h

/-- Nothing leads nowhere else. -/
theorem nil : Implements program text (fun _ => []) 0 Eq where
  length_eq _ := rfl
  exits {_ k a _} _ h := ⟨a, rfl, k, le_rfl, h⟩
  enters {_ k _ _ _} _ hr h := ⟨k, hr ▸ h⟩

/-- An instruction that leads to the one after it. -/
theorem single {i : Instruction} (hne : i ≠ .accept)
    (hnext : ∀ start a u, u ∈ (a.thread start).next text i ↔ ∃ b, r a b ∧ u = b.thread (start + 1)) :
    Implements program text (fun _ => [i]) 1 r where
  length_eq _ := rfl
  exits {start k a w} hcode h := by
    obtain ⟨u, hu, j, hj, hrun⟩ := h.exists_next hcode.1 hne
    obtain ⟨b, hb, rfl⟩ := (hnext start a u).mp hu
    exact ⟨b, hb, j, hj.le, hrun⟩
  enters {start k a b w} hcode hr h :=
    ⟨k + 1, .step hcode.1 ((hnext start a _).mpr ⟨b, hr, rfl⟩) h⟩

/-- Instructions one after the other implement relations one after the other. -/
theorem append (h : Implements program text code size r)
    (h' : Implements program text code' size' r') :
    Implements program text (fun start => code start ++ code' (start + size)) (size + size')
      (Relation.Comp r r') where
  length_eq start := by rw [List.length_append, h.length_eq, h'.length_eq]
  exits {start k a w} hcode hrun := by
    obtain ⟨hfirst, hrest⟩ := codeAt_append.mp hcode
    rw [h.length_eq] at hrest
    obtain ⟨c, hac, j, hj, hrun⟩ := h.exits hfirst hrun
    obtain ⟨b, hcb, i, hi, hrun⟩ := h'.exits hrest hrun
    rw [Nat.add_assoc] at hrun
    exact ⟨b, ⟨c, hac, hcb⟩, i, hi.trans hj, hrun⟩
  enters {start k a b w} hcode hr hrun := by
    obtain ⟨hfirst, hrest⟩ := codeAt_append.mp hcode
    rw [h.length_eq] at hrest
    obtain ⟨c, hac, hcb⟩ := hr
    rw [← Nat.add_assoc] at hrun
    obtain ⟨j, hrun⟩ := h'.enters hrest hcb hrun
    exact h.enters hfirst hac hrun

/-! #### Choices -/

/-- A fork in front of two pieces, the first of which jumps over the second. -/
theorem choice (h : Implements program text code size r)
    (h' : Implements program text code' size' r') :
    Implements program text
      (fun start => .fork (start + 1) (start + size + 2) ::
        (code (start + 1) ++ .jump (start + size + 2 + size') :: code' (start + size + 2)))
      (size + size' + 2) (fun a b => r a b ∨ r' a b) := by
  have hparts : ∀ {start}, CodeAt program start (.fork (start + 1) (start + size + 2) ::
      (code (start + 1) ++ .jump (start + size + 2 + size') :: code' (start + size + 2))) →
      program[start]? = some (.branch true (start + 1) (start + size + 2)) ∧
      CodeAt program (start + 1) (code (start + 1)) ∧
      program[start + 1 + size]? = some (.jump (start + size + 2 + size')) ∧
      CodeAt program (start + size + 2) (code' (start + size + 2)) := by
    intro start hcode
    obtain ⟨hfork, hrest⟩ := hcode
    obtain ⟨hfirst, hjump, hsecond⟩ := codeAt_append.mp hrest
    rw [h.length_eq] at hjump hsecond
    rw [show start + 1 + size + 1 = start + size + 2 by omega] at hsecond
    exact ⟨hfork, hfirst, hjump, hsecond⟩
  refine ⟨fun start => ?_, fun {start k a w} hcode hrun => ?_, fun {start k a b w} hcode hr hrun => ?_⟩
  · simp only [List.length_cons, List.length_append, h.length_eq, h'.length_eq]
    omega
  · obtain ⟨hfork, hfirst, hjump, hsecond⟩ := hparts hcode
    rw [show start + (size + size' + 2) = start + size + 2 + size' by omega]
    obtain ⟨j, hj, hrun | hrun⟩ := hrun.of_branch hfork
    · obtain ⟨b, hb, i, hi, hrun⟩ := h.exits hfirst hrun
      obtain ⟨u, hu, m, hm, hrun⟩ := hrun.exists_next hjump (by simp)
      obtain rfl : u = b.thread (start + size + 2 + size') := by
        simpa [Thread.next, Spot.thread] using hu
      exact ⟨b, .inl hb, m, by omega, hrun⟩
    · obtain ⟨b, hb, i, hi, hrun⟩ := h'.exits hsecond hrun
      exact ⟨b, .inr hb, i, by omega, hrun⟩
  · obtain ⟨hfork, hfirst, hjump, hsecond⟩ := hparts hcode
    rw [show start + (size + size' + 2) = start + size + 2 + size' by omega] at hrun
    rcases hr with hr | hr
    · have hrun' : Run program text (k + 1) (b.thread (start + 1 + size)) w :=
        .step hjump (by simp [Thread.next, Spot.thread]) hrun
      obtain ⟨j, hrun⟩ := h.enters hfirst hr hrun'
      exact ⟨_, .branch hfork (.inl hrun)⟩
    · obtain ⟨j, hrun⟩ := h'.enters hsecond hr hrun
      exact ⟨_, .branch hfork (.inr hrun)⟩

/-! #### Repetitions -/

/-- Copies of the same instructions. -/
theorem copies (h : Implements program text code size r) (n : Nat) :
    Implements program text (Pattern.copies code size n) (n * size) (times r n) := by
  induction n with
  | zero => exact nil.congr (fun _ => rfl) (Nat.zero_mul size) fun _ _ => Iff.rfl
  | succ n ih =>
    refine (h.append ih).congr (fun _ => rfl) ?_ fun _ _ => Iff.rfl
    rw [Nat.succ_mul, Nat.add_comm]

/-- A branch around a piece. -/
theorem optional (greedy : Bool) (h : Implements program text code size r) :
    Implements program text
      (fun start => .branch greedy (start + 1) (start + size + 1) :: code (start + 1)) (size + 1)
      (fun a b => a = b ∨ r a b) where
  length_eq start := by rw [List.length_cons, h.length_eq]
  exits {start k a w} hcode hrun := by
    have hstop : start + 1 + size = start + (size + 1) := by omega
    obtain ⟨j, hj, hrun | hrun⟩ := hrun.of_branch hcode.1
    · obtain ⟨b, hb, i, hi, hrun⟩ := h.exits hcode.2 hrun
      exact ⟨b, .inr hb, i, by omega, hstop ▸ hrun⟩
    · exact ⟨a, .inl rfl, j, hj.le, hrun⟩
  enters {start k a b w} hcode hr hrun := by
    have hstop : start + 1 + size = start + (size + 1) := by omega
    rcases hr with rfl | hr
    · exact ⟨_, .branch hcode.1 (.inr hrun)⟩
    · obtain ⟨j, hrun⟩ := h.enters hcode.2 hr (hstop.symm ▸ hrun)
      exact ⟨_, .branch hcode.1 (.inl hrun)⟩

/-- A branch back to the start of a piece. -/
theorem loop (greedy : Bool) (h : Implements program text code size r) :
    Implements program text (fun start => code start ++ [.branch greedy start (start + size + 1)])
      (size + 1) (fun a b => ∃ n, times r (n + 1) a b) := by
  have hparts : ∀ {start},
      CodeAt program start (code start ++ [.branch greedy start (start + size + 1)]) →
      CodeAt program start (code start) ∧
        program[start + size]? = some (.branch greedy start (start + size + 1)) := by
    intro start hcode
    obtain ⟨hitem, hbranch, -⟩ := codeAt_append.mp hcode
    rw [h.length_eq] at hbranch
    exact ⟨hitem, hbranch⟩
  refine ⟨fun start => ?_, fun {start k a w} hcode hrun => ?_, fun {start k a b w} hcode hr hrun => ?_⟩
  · rw [List.length_append, h.length_eq, List.length_singleton]
  · obtain ⟨hitem, hbranch⟩ := hparts hcode
    -- every turn takes a step at least, so that the run that is left gets shorter
    induction k using Nat.strong_induction_on generalizing a with
    | h k ih =>
      obtain ⟨c, hac, j, hj, hrun⟩ := h.exits hitem hrun
      obtain ⟨i, hi, hrun | hrun⟩ := hrun.of_branch hbranch
      · obtain ⟨b, ⟨n, hcb⟩, l, hl, hrun⟩ := ih i (by omega) hrun
        exact ⟨b, ⟨n + 1, c, hac, hcb⟩, l, by omega, hrun⟩
      · exact ⟨c, ⟨0, c, hac, rfl⟩, i, by omega, hrun⟩
  · obtain ⟨hitem, hbranch⟩ := hparts hcode
    obtain ⟨n, hn⟩ := hr
    induction n generalizing a with
    | zero =>
      obtain ⟨c, hac, rfl⟩ := hn
      exact h.enters hitem hac (.branch hbranch (.inr hrun))
    | succ n ih =>
      obtain ⟨c, hac, hcb⟩ := hn
      obtain ⟨j, hrun⟩ := ih hcb
      exact h.enters hitem hac (.branch hbranch (.inl hrun))

/-- Copies of which each may be the last. -/
theorem optionalCopies (greedy : Bool) (h : Implements program text code size r) (n : Nat) :
    Implements program text
      (fun start => Pattern.optionalCopies code size greedy (start + n * (size + 1)) n start)
      (n * (size + 1)) (fun a b => ∃ m ≤ n, times r m a b) := by
  induction n with
  | zero =>
    refine nil.congr (fun _ => rfl) (Nat.zero_mul _) fun a b => ⟨?_, fun h => ⟨0, le_rfl, h⟩⟩
    rintro ⟨m, hm, h⟩
    obtain rfl : m = 0 := by omega
    exact h
  | succ n ih =>
    refine ((h.append ih).optional greedy).congr (fun start => ?_) ?_ fun a b => ?_
    · have hstop : start + (n + 1) * (size + 1) = start + 1 + size + n * (size + 1) := by
        rw [Nat.succ_mul]
        omega
      have hbehind : start + (size + n * (size + 1)) + 1 = start + 1 + size + n * (size + 1) := by
        omega
      rw [hstop, hbehind]
      rfl
    · rw [Nat.succ_mul]
      omega
    · constructor
      · rintro ⟨_ | m, hm, h⟩
        · exact .inl h
        · obtain ⟨c, hac, hcb⟩ := h
          exact .inr ⟨c, hac, m, by omega, hcb⟩
      · rintro (rfl | ⟨c, hac, m, hm, hcb⟩)
        · exact ⟨0, Nat.zero_le _, rfl⟩
        · exact ⟨m + 1, by omega, c, hac, hcb⟩

/-- A piece any number of times. -/
theorem star (greedy : Bool) (h : Implements program text code size r) :
    Implements program text
      (fun start => .branch greedy (start + 1) (start + size + 2) ::
        (code (start + 1) ++ [.branch greedy (start + 1) (start + size + 2)]))
      (size + 2) (fun a b => ∃ n, times r n a b) := by
  refine ((h.loop greedy).optional greedy).congr (fun start => ?_) rfl fun a b => ?_
  · rw [show start + (size + 1) + 1 = start + size + 2 by omega,
      show start + 1 + size + 1 = start + size + 2 by omega]
  · constructor
    · rintro ⟨_ | n, h⟩
      · exact .inl h
      · exact .inr ⟨n, h⟩
    · rintro (rfl | ⟨n, h⟩)
      · exact ⟨0, rfl⟩
      · exact ⟨n + 1, h⟩

/-- The last of some copies stands behind the others. -/
theorem copies_succ (code : Nat → List Instruction) (size n start : Nat) :
    Pattern.copies code size (n + 1) start =
      Pattern.copies code size n start ++ code (start + n * size) := by
  induction n generalizing start with
  | zero => simp [Pattern.copies]
  | succ n ih =>
    rw [Pattern.copies, ih (start + size), Pattern.copies, List.append_assoc, Nat.succ_mul,
      show start + size + n * size = start + (n * size + size) by omega]

/-- A piece so many times at least. -/
theorem plus (greedy : Bool) (h : Implements program text code size r) (n : Nat) :
    Implements program text
      (fun start => Pattern.copies code size (n + 1) start ++
        [.branch greedy (start + n * size) (start + (n + 1) * size + 1)])
      ((n + 1) * size + 1) (fun a b => ∃ m, n + 1 ≤ m ∧ times r m a b) := by
  refine ((h.copies n).append (h.loop greedy)).congr (fun start => ?_) ?_ fun a b => ?_
  · rw [copies_succ, List.append_assoc, Nat.succ_mul,
      show start + n * size + size + 1 = start + (n * size + size) + 1 by omega]
  · rw [Nat.succ_mul]
    omega
  · constructor
    · rintro ⟨m, hm, h⟩
      obtain ⟨d, rfl⟩ : ∃ d, m = n + (d + 1) := ⟨m - n - 1, by omega⟩
      obtain ⟨c, hac, hcb⟩ := times_add.mp h
      exact ⟨c, hac, d, hcb⟩
    · rintro ⟨c, hac, d, hcb⟩
      exact ⟨n + (d + 1), by omega, times_add.mpr ⟨c, hac, hcb⟩⟩

/-- A piece so many times at least and so many times at most. -/
theorem between (greedy : Bool) (h : Implements program text code size r) (least n : Nat) :
    Implements program text
      (fun start => Pattern.copies code size least start ++
        Pattern.optionalCopies code size greedy (start + least * size + n * (size + 1)) n
          (start + least * size))
      (least * size + n * (size + 1))
      (fun a b => ∃ m, least ≤ m ∧ m ≤ least + n ∧ times r m a b) := by
  refine ((h.copies least).append (h.optionalCopies greedy n)).congr (fun _ => rfl) rfl
    fun a b => ?_
  constructor
  · rintro ⟨m, hm, hn, h⟩
    obtain ⟨d, rfl⟩ : ∃ d, m = least + d := ⟨m - least, by omega⟩
    obtain ⟨c, hac, hcb⟩ := times_add.mp h
    exact ⟨c, hac, d, by omega, hcb⟩
  · rintro ⟨c, hac, d, hd, hcb⟩
    exact ⟨least + d, by omega, by omega, times_add.mpr ⟨c, hac, hcb⟩⟩

end Implements

/-! ### Nodes -/

namespace Node

/-- A character of a set is taken. -/
theorem implements_set (s : CharSet) :
    Implements program text (fun _ => [.take s]) 1 ((Node.set s).Matches text) := by
  refine .single (by simp) fun start a u => ?_
  simp only [Thread.next, Spot.thread, Matches]
  cases hc : text[a.place]? with
  | none => simp
  | some c => by_cases hs : s.contains c <;> simp [hs, Spot.forward]

/-- The characters of a text are taken one after the other. -/
theorem implements_text (cs : List Char) :
    Implements program text (Node.text cs).code cs.length ((Node.text cs).Matches text) := by
  induction cs with
  | nil =>
    refine Implements.nil.congr (fun _ => rfl) rfl fun a b => ?_
    simp [Matches, standsAt, eq_comm]
  | cons c rest ih =>
    refine ((implements_set (.singleton c)).append ih).congr (fun _ => rfl) ?_
      fun _ _ => matches_text_cons
    rw [List.length_cons, Nat.add_comm]

/-- A place is kept. -/
theorem implements_keep (slot : Nat) :
    Implements program text (fun _ => [.keep slot]) 1 fun a b => b = a.keep slot := by
  refine .single (by simp) fun start a u => ?_
  simp [Thread.next, Spot.thread, Spot.keep]

/-- **The instructions of a node implement its relation.** -/
theorem implements (n : Node) :
    Implements program text n.code n.size (n.Matches text) := by
  induction n with
  | empty => exact .nil
  | text cs => exact implements_text cs
  | set s => exact implements_set s
  | anchor p =>
    refine .single (by simp) fun start a u => ?_
    simp only [Thread.next, Spot.thread, Matches]
    by_cases hp : p.holds (Pattern.before text a.place) text[a.place]? <;> simp [hp]
  | capture index content ih =>
    refine ((implements_keep (2 * index)).append
      (ih.append (implements_keep (2 * index + 1)))).congr (fun _ => rfl) ?_ fun a b => ?_
    · rw [size]
      omega
    · simp [Matches, Relation.Comp]
  | sequence first rest ihFirst ihRest => exact ihFirst.append ihRest
  | choice first rest ihFirst ihRest => exact ihFirst.choice ihRest
  | repeated least most greedy item ih =>
    cases most with
    | none =>
      by_cases hzero : least = 0
      · subst hzero
        refine (ih.star greedy).congr (fun _ => rfl) rfl fun a b => ?_
        simp [Matches]
      · obtain ⟨n, rfl⟩ : ∃ n, least = n + 1 := Nat.exists_eq_succ_of_ne_zero hzero
        refine (ih.plus greedy n).congr (fun _ => rfl) rfl fun a b => ?_
        simp [Matches]
    | some most =>
      refine (ih.between greedy least (most - least)).congr (fun _ => rfl) rfl fun a b => ?_
      have hmost : max least most = least + (most - least) := by omega
      simp [Matches, ← hmost]

/-! ### Searching -/

variable {n : Node} {place : Nat}

/-- **The runs of a program are the matches of its node.** -/
theorem run_program_iff {s : Nat} {w : Thread} :
    (∃ k, Run n.program text k ⟨0, s, []⟩ w) ↔
      ∃ b, n.Matches text ⟨s, []⟩ b ∧ w = b.thread n.size := by
  have himplements : Implements n.program text n.code n.size (n.Matches text) := implements n
  have hparts : CodeAt n.program 0 (n.code 0) ∧ CodeAt n.program (0 + n.size) [.accept] := by
    have hcode : CodeAt n.program 0 (n.code 0 ++ [.accept]) := codeAt_toArray [] _
    rw [← himplements.length_eq 0]
    exact codeAt_append.mp hcode
  obtain ⟨hcode, haccept, -⟩ := hparts
  constructor
  · rintro ⟨k, hrun⟩
    obtain ⟨b, hb, j, -, hrest⟩ := himplements.exits (a := ⟨s, []⟩) hcode hrun
    rw [Nat.zero_add] at haccept hrest
    refine ⟨b, hb, ?_⟩
    cases hrest with
    | done => rfl
    | step hi hu =>
      obtain rfl := Option.some.inj (hi.symm.trans haccept)
      exact absurd hu List.not_mem_nil
  · rintro ⟨b, hb, rfl⟩
    have hdone : Run n.program text 0 (b.thread (0 + n.size)) (b.thread n.size) := by
      rw [Nat.zero_add] at haccept ⊢
      exact .done haccept
    exact himplements.enters (a := ⟨s, []⟩) hcode hb hdone

/-- **What a search finds is a match.** -/
theorem matches_of_find? {m : Match} (h : (Searcher.program n.program).find? text place = some m) :
    n.Matches text ⟨m.start, []⟩ ⟨m.stop, m.kept⟩ := by
  obtain ⟨-, k, a, hrun⟩ := exists_run_of_findProgram? h
  obtain ⟨b, hb, hend⟩ := run_program_iff.mp ⟨k, hrun⟩
  have hstop : m.stop = b.place := congrArg Thread.place hend
  have hkept : m.kept = b.kept := congrArg Thread.kept hend
  rw [hstop, hkept]
  exact hb

/-- **A search finds the first match**: none starts before what is found, and none at all if nothing
is found. -/
theorem not_matches_of_find? {s : Nat} {b : Spot} (hs : place ≤ s) (hsize : s ≤ text.size)
    (hfirst : ∀ m ∈ (Searcher.program n.program).find? text place, s < m.start) :
    ¬ n.Matches text ⟨s, []⟩ b := by
  intro hb
  obtain ⟨k, hrun⟩ := run_program_iff.mpr ⟨b, hb, rfl⟩
  exact no_run_of_findProgram? closed_empty (by omega) hs (by omega) hfirst hrun

end Node

end Pattern

end RecordFormula
