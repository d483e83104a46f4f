import RecordFormula.Proofs.Syntax.Grammar

/-!
# Reading tokens is deriving them

The parser keeps what it has read on a stack of frames. Two invariants tie the stack to the
grammar.

* **Completeness** (`Derives.run`): where an operand is due, the tokens of a phrase are read, and
  the operators on top of the stack that bind more tightly than the frames below give its tree.
  `Phrase.Fits` says below which frames a phrase may stand, `Phrase.Done` what has been read of it.
* **Soundness** (`Reached.step`): what has been read so far is always a derivation in part.
  `Pending` says which kinds the frames stand for, `Reached` which kinds a state stands for.
* **The parser accepts exactly its grammar and builds the tree of the grammar**
  (`ofTokens_eq_ok_iff_derives`).
-/

namespace RecordFormula

namespace Expr

open Token (Kind)

/-! ### Completeness -/

section completeness

/-- From `s` the tokens of the kinds `ks` lead to `s'`, wherever they stand. -/
def Reads (s : State) (ks : List Kind) (s' : State) : Prop :=
  ∀ ts : List Token, ts.map Token.kind = ks → run s ts = .ok s'

/-- No tokens lead nowhere. -/
theorem Reads.nil (s : State) : Reads s [] s := by
  intro ts h
  rw [List.map_eq_nil_iff] at h
  rw [h, run]

/-- A token comes before the others. -/
theorem Reads.cons {s s' s'' : State} {k : Kind} {ks : List Kind}
    (h : ∀ position, step s ⟨k, position⟩ = .ok s') (hs : Reads s' ks s'') :
    Reads s (k :: ks) s'' := by
  intro ts hts
  obtain ⟨⟨_, position⟩, rest, rfl, rfl, hrest⟩ := List.map_eq_cons_iff.mp hts
  rw [run, h position]
  exact hs rest hrest

/-- Runs of tokens follow one another. -/
theorem Reads.append {s s' s'' : State} {ks ks' : List Kind} (h : Reads s ks s')
    (h' : Reads s' ks' s'') : Reads s (ks ++ ks') s'' := by
  induction ks generalizing s with
  | nil =>
    have : s = s' := by simpa [run] using h [] rfl
    exact this ▸ h'
  | cons k ks ih =>
    intro ts hts
    obtain ⟨t, rest, rfl, hk, hrest⟩ := List.map_eq_cons_iff.mp hts
    rw [run]
    cases hstep : step s t with
    | error e =>
      have := h (t :: ks.map fun k => ⟨k, 0⟩) (by simp [hk, Function.comp_def])
      simp [run, hstep] at this
    | ok s₁ =>
      have hs₁ : Reads s₁ ks s' := by
        intro us hus
        have := h (t :: us) (by simp [hk, hus])
        simpa [run, hstep] using this
      exact ih hs₁ rest hrest

/-- A phrase may stand on top of these frames: no sign in front of an operand waits for less than a
prefixed operand, and no operator binds as tightly as the phrase. -/
def Phrase.Fits (p : Phrase) : List Frame → Prop
  | .unary _ :: _ => 3 ≤ p.level
  | .binary _ op :: _ => strength op < p.level
  | _ => True

/-- The phrase `p` with the tree `t` has been read on top of the frames. The operators of a chain
may still wait for their right operands. -/
def Phrase.Done (p : Phrase) (t : Expr) (frames : List Frame) (s : State) : Prop :=
  if 3 ≤ p.level then s = settle t frames
  else ∃ tree fs, s = .complete tree fs ∧ reduce p.level tree fs = (t, frames)

/-- A tighter phrase may stand wherever a looser one may. -/
theorem Phrase.Fits.mono {p q : Phrase} {frames : List Frame} (h : p.Fits frames)
    (hpq : p.level ≤ q.level) : q.Fits frames := by
  unfold Phrase.Fits at *
  split at h <;> omega

/-- Nothing is taken from frames on top of which a phrase may stand. -/
theorem reduce_of_fits {p : Phrase} {frames : List Frame} (h : p.Fits frames) (t : Expr) :
    reduce p.level t frames = (t, frames) := by
  unfold Phrase.Fits at h
  split at h
  · rw [reduce]; simp
  · rw [reduce, if_neg (by omega)]
  · rw [reduce]; assumption

/-- Where a chain may stand, no sign waits for an operand. -/
theorem settle_of_fits {p : Phrase} {frames : List Frame} (h : p.Fits frames) (hp : p.level < 3)
    (t : Expr) : settle t frames = .complete t frames := by
  unfold Phrase.Fits at h
  split at h
  · omega
  · rw [settle]; simp
  · rw [settle]; assumption

/-- Taking operands for tight operators first changes nothing. -/
theorem reduce_reduce {least most : Nat} (h : least ≤ most) (t : Expr) (frames : List Frame) :
    reduce least (reduce most t frames).1 (reduce most t frames).2 = reduce least t frames := by
  fun_induction reduce most t frames with
  | case1 t left op frames hle ih =>
    rw [ih, reduce.eq_1 least t, if_pos (by omega)]
  | case2 t left op frames hlt => rfl
  | case3 t frames h => rfl

/-- Where no sign waits for an operand, a phrase that has been read is a complete operand. -/
theorem Phrase.Done.complete {p : Phrase} {t : Expr} {frames : List Frame} {s : State}
    (h : p.Done t frames s) (hf : p.Fits frames) (hs : ∀ t, settle t frames = .complete t frames) :
    ∃ tree fs, s = .complete tree fs ∧ reduce p.level tree fs = (t, frames) := by
  unfold Phrase.Done at h
  split_ifs at h with hp
  · exact ⟨t, frames, h.trans (hs t), reduce_of_fits hf t⟩
  · exact h

/-- A phrase that has been read is a looser one that has been read. -/
theorem Phrase.Done.loosen {p q : Phrase} {t : Expr} {frames : List Frame} {s : State}
    (h : q.Done t frames s) (hpq : p.level ≤ q.level) (hf : p.Fits frames) : p.Done t frames s := by
  by_cases hp : 3 ≤ p.level
  · rw [Phrase.Done, if_pos (by omega)] at h
    rw [Phrase.Done, if_pos hp, h]
  · obtain ⟨tree, fs, rfl, hr⟩ := h.complete (hf.mono hpq) (settle_of_fits hf (by omega))
    rw [Phrase.Done, if_neg hp]
    refine ⟨tree, fs, rfl, ?_⟩
    rw [← reduce_reduce hpq, hr, reduce_of_fits hf]

/-- A sign in front of an operand. -/
theorem step_prefixSign {sign : String} {op : PrefixOperator} (h : (sign, op) ∈ prefixSigns)
    (before : Before) (frames : List Frame) (position : Nat) :
    step (.operand before frames) ⟨.operator sign, position⟩ =
      .ok (.operand .other (.unary op :: frames)) := by
  simp [step, stepOperand, mem_prefixSigns_iff.mp h]

/-- A sign between two operands. -/
theorem step_sign {p : Phrase} {sign : String} {op : Operator} (h : (sign, op) ∈ p.signs)
    (tree : Expr) (frames : List Frame) (position : Nat) :
    step (.complete tree frames) ⟨.operator sign, position⟩ =
      .ok (.operand .other (.binary (reduce p.level tree frames).1 op ::
        (reduce p.level tree frames).2)) := by
  obtain ⟨hs, hp⟩ := mem_signs_iff.mp h
  simp [step, stepComplete, hs, hp]

/-- The last part of a call: its arguments and the closing parenthesis. -/
theorem reads_arguments {name : String} {frames : List Frame} {args : List (List Kind × Expr)}
    (h : ∀ a ∈ args, ∀ before frames, Phrase.comparison.Fits frames →
      ∃ s, Reads (.operand before frames) a.1 s ∧ Phrase.comparison.Done a.2 frames s)
    (hargs : args ≠ []) (before : Before) (done : List Expr) :
    Reads (.operand before (.call name done :: frames)) (separated args ++ [.closeParen])
      (settle (.call name (done ++ args.map Prod.snd)) frames) := by
  induction args generalizing before done with
  | nil => exact absurd rfl hargs
  | cons a rest ih =>
    obtain ⟨s, hread, hdone⟩ :=
      h a (List.mem_cons_self ..) before (.call name done :: frames) trivial
    obtain ⟨tree, fs, rfl, hr⟩ := hdone
    cases rest with
    | nil =>
      have hclose : ∀ position, step (.complete tree fs) ⟨.closeParen, position⟩ =
          .ok (settle (.call name (done ++ [a.2])) frames) := by
        intro position
        simp only [Phrase.level] at hr
        simp [step, stepComplete, hr]
      simpa [separated] using hread.append (.cons hclose (.nil _))
    | cons b rest =>
      have hcomma : ∀ position, step (.complete tree fs) ⟨.comma, position⟩ =
          .ok (.operand .comma (.call name (done ++ [a.2]) :: frames)) := by
        intro position
        simp only [Phrase.level] at hr
        simp [step, stepComplete, hr]
      have hrest :=
        ih (fun c hc => h c (List.mem_cons_of_mem _ hc)) (by simp) .comma (done ++ [a.2])
      simpa [separated] using hread.append (.cons hcomma hrest)

/-- **Completeness.** The tokens of a phrase are read wherever the phrase may stand. -/
theorem Derives.run {p : Phrase} {ks : List Kind} {t : Expr} (h : Derives p ks t)
    (before : Before) (frames : List Frame) (hf : p.Fits frames) :
    ∃ s, Reads (.operand before frames) ks s ∧ p.Done t frames s := by
  induction h generalizing before frames with
  | @operand p ks t h ih =>
    have hp : p.level ≤ p.operand.level := by cases p <;> decide
    obtain ⟨s, hread, hdone⟩ := ih before frames (hf.mono hp)
    exact ⟨s, hread, hdone.loosen hp hf⟩
  | @chain p ks ks' left right sign op l hs r ihl ihr =>
    have hp : p.level < 3 := by cases p <;> simp [Phrase.signs, Phrase.level] at hs ⊢
    have hop : p.level < p.operand.level := by
      cases p <;> simp [Phrase.level, Phrase.operand] at hp ⊢
    obtain ⟨s, hread, hdone⟩ := ihl before frames hf
    rw [Phrase.Done, if_neg (by omega)] at hdone
    obtain ⟨tree, fs, rfl, hr⟩ := hdone
    have hfits : p.operand.Fits (.binary left op :: frames) := by
      rw [Phrase.Fits, (mem_signs_iff.mp hs).2]
      exact hop
    obtain ⟨s', hread', hdone'⟩ := ihr .other (.binary left op :: frames) hfits
    have hsign := step_sign hs tree fs
    rw [hr] at hsign
    refine ⟨s', hread.append (.cons hsign hread'), ?_⟩
    obtain ⟨tree', fs', rfl, hr'⟩ := hdone'.complete hfits (fun t => by rw [settle]; simp)
    rw [Phrase.Done, if_neg (by omega)]
    refine ⟨tree', fs', rfl, ?_⟩
    rw [← reduce_reduce (Nat.le_of_lt hop), hr', reduce,
      if_pos (Nat.le_of_eq (mem_signs_iff.mp hs).2.symm), reduce_of_fits hf]
  | @signed ks t sign op hs h ih =>
    obtain ⟨s, hread, hdone⟩ :=
      ih .other (.unary op :: frames) (by simp [Phrase.Fits, Phrase.level])
    refine ⟨s, .cons (step_prefixSign hs before frames) hread, ?_⟩
    simpa [Phrase.Done, Phrase.level, settle] using hdone
  | number x => exact ⟨_, .cons (fun _ => rfl) (.nil _), rfl⟩
  | text s => exact ⟨_, .cons (fun _ => rfl) (.nil _), rfl⟩
  | yes => exact ⟨_, .cons (fun _ => rfl) (.nil _), rfl⟩
  | no => exact ⟨_, .cons (fun _ => rfl) (.nil _), rfl⟩
  | @word name ht hn =>
    refine ⟨_, .cons (fun _ => rfl) (.nil _), ?_⟩
    simp [Phrase.Done, Phrase.level, wordValue, ht, hn]
  | field name => exact ⟨_, .cons (fun _ => rfl) (.nil _), rfl⟩
  | @group ks t h ih =>
    obtain ⟨s, hread, tree, fs, rfl, hr⟩ := ih .other (.group :: frames) trivial
    have hclose : ∀ position, step (.complete tree fs) ⟨.closeParen, position⟩ =
        .ok (settle t frames) := by
      intro position
      simp only [Phrase.level] at hr
      simp [step, stepComplete, hr]
    exact ⟨_, .cons (fun _ => rfl) (hread.append (.cons hclose (.nil _))), rfl⟩
  | call name args h ih =>
    refine ⟨_, .cons (fun _ => rfl) (.cons (fun _ => rfl) ?_), rfl⟩
    cases args with
    | nil => exact .cons (fun _ => rfl) (.nil _)
    | cons a rest => exact reads_arguments ih (by simp) .callParen []

end completeness

/-! ### Soundness -/

section soundness

/-- No sign in front of an operand waits for it. -/
def Settled : List Frame → Prop
  | .unary _ :: _ => False
  | _ => True

/-- Where a chain may stand, no sign waits. -/
theorem Phrase.Fits.settled {p : Phrase} {frames : List Frame} (h : p.Fits frames)
    (hp : p.level < 3) : Settled frames := by
  unfold Phrase.Fits at h
  unfold Settled
  split <;> simp_all
  omega

/-- The arguments that a call has so far, each with its comma. -/
def announced (args : List (List Kind × Expr)) : List Kind := args.flatMap fun a => a.1 ++ [.comma]

/-- Arguments with their commas, and one more, are arguments with commas between them. -/
theorem separated_append (args : List (List Kind × Expr)) (a : List Kind × Expr) :
    separated (args ++ [a]) = announced args ++ a.1 := by
  induction args with
  | nil => simp [separated, announced]
  | cons b rest ih =>
    have hne : rest ++ [a] ≠ [] := by simp
    obtain ⟨c, cs, hc⟩ := List.exists_cons_of_ne_nil hne
    rw [List.cons_append, announced, List.flatMap_cons, ← announced, List.append_assoc, ← ih, hc]
    simp [separated]

/-- The kinds that have been read and that the frames stand for. -/
inductive Pending : List Kind → List Frame → Prop
  /-- Nothing has been read. -/
  | nil : Pending [] []
  /-- A sign waits for its operand. -/
  | unary {ks frames sign op} (h : Pending ks frames) (hs : (sign, op) ∈ prefixSigns) :
      Pending (ks ++ [.operator sign]) (.unary op :: frames)
  /-- A chain waits for its next operand. -/
  | binary {p ks ks' left frames sign op} (h : Pending ks frames) (hf : p.Fits frames)
      (l : Derives p ks' left) (hs : (sign, op) ∈ p.signs) :
      Pending (ks ++ ks' ++ [.operator sign]) (.binary left op :: frames)
  /-- A parenthesis waits for its closing one. -/
  | group {ks frames} (h : Pending ks frames) : Pending (ks ++ [.openParen]) (.group :: frames)
  /-- A call waits for its next argument. -/
  | call {ks frames name} (h : Pending ks frames) (args : List (List Kind × Expr))
      (ha : ∀ a ∈ args, Derives .comparison a.1 a.2) :
      Pending (ks ++ .function name :: .openParen :: announced args)
        (.call name (args.map Prod.snd) :: frames)

/-- The kinds that have been read and that a state stands for. -/
inductive Reached : List Kind → State → Prop
  /-- An operand is due. Right after the parenthesis of a call it has no arguments yet. -/
  | operand {before ks frames} (h : Pending ks frames)
      (hb : before = .callParen → ∃ name fs, frames = .call name [] :: fs) :
      Reached ks (.operand before frames)
  /-- The parenthesis of a call is due. -/
  | callee {name ks frames} (h : Pending ks frames) :
      Reached (ks ++ [.function name]) (.callee name frames)
  /-- An operand has been read, and no sign waits for it. -/
  | complete {ks ks' t frames} (h : Pending ks frames) (ht : Derives .prefixed ks' t)
      (hs : Settled frames) : Reached (ks ++ ks') (.complete t frames)

/-- The signs in front of an operand take it. -/
theorem Pending.settle {ks ks' : List Kind} {t : Expr} {frames : List Frame}
    (h : Pending ks frames) (ht : Derives .prefixed ks' t) :
    Reached (ks ++ ks') (settle t frames) := by
  induction h generalizing ks' t with
  | nil => exact .complete .nil ht trivial
  | unary h hs ih => simpa [Expr.settle] using ih (.signed hs ht)
  | binary h hf l hs => exact .complete (.binary h hf l hs) ht trivial
  | group h => exact .complete (.group h) ht trivial
  | call h args ha => exact .complete (.call h args ha) ht trivial

/-- The operators that are at least as tight as a phrase take their operands; what is left is such a
phrase on top of frames where it may stand. -/
theorem Pending.reduce {ks ks' : List Kind} {t : Expr} {frames : List Frame}
    (h : Pending ks frames) {p q : Phrase} (ht : Derives q ks' t) (hpq : p.level ≤ q.level)
    (hf : q.Fits frames) (hs : Settled frames) :
    ∃ ks₁ ks₂, ks ++ ks' = ks₁ ++ ks₂ ∧ Pending ks₁ (reduce p.level t frames).2 ∧
      Derives p ks₂ (reduce p.level t frames).1 ∧ p.Fits (reduce p.level t frames).2 := by
  induction h generalizing q ks' t with
  | nil => exact ⟨[], ks', rfl, .nil, ht.loosen hpq, trivial⟩
  | unary => exact hs.elim
  | @binary r ks ks'' left frames sign op h hf' l hs' ih =>
    have hr : strength op = r.level := (mem_signs_iff.mp hs').2
    have hchain : r.level < 3 ∧ r.operand.level = r.level + 1 := by
      cases r <;> simp [Phrase.signs, Phrase.level, Phrase.operand] at hs' ⊢
    rw [Phrase.Fits, hr] at hf
    rw [Expr.reduce, hr]
    split_ifs with hle
    · -- the operator takes the operand, and its chain is what is read now
      have hl : Derives r (ks'' ++ .operator sign :: ks') (.binary op left t) :=
        .chain l hs' (ht.loosen (by omega))
      obtain ⟨ks₁, ks₂, he, hp⟩ := ih hl hle hf' (hf'.settled hchain.1)
      exact ⟨ks₁, ks₂, by simpa using he, hp⟩
    · refine ⟨_, ks', rfl, .binary h hf' l hs', ht.loosen hpq, ?_⟩
      rw [Phrase.Fits, hr]
      omega
  | group h => exact ⟨_, ks', rfl, .group h, ht.loosen hpq, trivial⟩
  | call h args ha => exact ⟨_, ks', rfl, .call h args ha, ht.loosen hpq, trivial⟩

/-- A prefixed operand may stand anywhere. -/
theorem Phrase.prefixed_fits (frames : List Frame) : Phrase.prefixed.Fits frames := by
  unfold Phrase.Fits
  split
  · exact Nat.le_refl 3
  · next op _ => cases op <;> decide
  · trivial

/-- After an operand, everything since the innermost parenthesis is a comparison. -/
theorem Pending.comparison {ks ks' : List Kind} {t : Expr} {frames : List Frame}
    (h : Pending ks frames) (ht : Derives .prefixed ks' t) (hs : Settled frames) :
    ∃ ks₁ ks₂, ks ++ ks' = ks₁ ++ ks₂ ∧ Pending ks₁ (Expr.reduce 0 t frames).2 ∧
      Derives .comparison ks₂ (Expr.reduce 0 t frames).1 := by
  obtain ⟨ks₁, ks₂, he, hp, hd, -⟩ :=
    h.reduce (p := .comparison) ht (by decide) (Phrase.prefixed_fits frames) hs
  exact ⟨ks₁, ks₂, he, hp, hd⟩

/-- What the frame of a call stands for. -/
theorem Pending.ofCall {ks : List Kind} {name : String} {done : List Expr} {frames : List Frame}
    (h : Pending ks (.call name done :: frames)) :
    ∃ ks₀ args, Pending ks₀ frames ∧ (∀ a ∈ args, Derives .comparison a.1 a.2) ∧
      args.map Prod.snd = done ∧ ks = ks₀ ++ .function name :: .openParen :: announced args := by
  generalize hf : Frame.call name done :: frames = all at h
  cases h with
  | call h args ha =>
    cases hf
    exact ⟨_, args, h, ha, rfl, rfl⟩
  | _ => cases hf

/-- A token is read where an operand is due. -/
theorem Pending.stepOperand {ks : List Kind} {frames : List Frame} (h : Pending ks frames)
    {before : Before} (hb : before = .callParen → ∃ name fs, frames = .call name [] :: fs)
    {t : Token} {s : State} (hstep : stepOperand before frames t = .ok s) :
    Reached (ks ++ [t.kind]) s := by
  obtain ⟨kind, position⟩ := t
  cases kind with
  | number x => cases hstep; exact h.settle (.operand (.number x))
  | text x => cases hstep; exact h.settle (.operand (.text x))
  | word name => cases hstep; exact h.settle (.operand (.ofWord name))
  | field name => cases hstep; exact h.settle (.operand (.field name))
  | function name => cases hstep; exact .callee h
  | openParen => cases hstep; exact .operand (.group h) (by simp)
  | operator sign =>
    cases hop : PrefixOperator.ofSymbol? sign with
    | none => simp [Expr.stepOperand, hop, unexpected] at hstep
    | some op =>
      simp only [Expr.stepOperand, hop, Except.ok.injEq] at hstep
      exact hstep ▸ .operand (.unary h (mem_prefixSigns_iff.mpr hop)) (by simp)
  | closeParen =>
    cases before with
    | other => simp [Expr.stepOperand, unexpected] at hstep
    | comma => simp [Expr.stepOperand, expected] at hstep
    | callParen =>
      obtain ⟨name, fs, rfl⟩ := hb rfl
      simp only [Expr.stepOperand, Except.ok.injEq] at hstep
      obtain ⟨ks₀, args, h₀, -, hargs, rfl⟩ := h.ofCall
      obtain rfl := List.map_eq_nil_iff.mp hargs
      have hcall := h₀.settle (.operand (.call name [] (by simp)))
      simpa [announced, separated, hstep] using hcall
  | comma => simp [Expr.stepOperand, unexpected] at hstep
  | finish => simp [Expr.stepOperand, unexpected] at hstep

/-- A token is read after an operand. -/
theorem Pending.stepComplete {ks ks' : List Kind} {tree : Expr} {frames : List Frame}
    (h : Pending ks frames) (ht : Derives .prefixed ks' tree) (hs : Settled frames) {t : Token}
    {s : State} (hstep : stepComplete tree frames t = .ok s) :
    Reached (ks ++ ks' ++ [t.kind]) s := by
  obtain ⟨kind, position⟩ := t
  obtain ⟨ks₁, ks₂, he, hp, hd⟩ := h.comparison ht hs
  cases kind with
  | operator sign =>
    cases hop : Operator.ofSymbol? sign with
    | none => simp [Expr.stepComplete, hop, expected] at hstep
    | some op =>
      simp only [Expr.stepComplete, hop, Except.ok.injEq] at hstep
      obtain ⟨p, hsign, hle⟩ := exists_mem_signs hop
      obtain ⟨ks₁, ks₂, he, hp, hd, hfits⟩ :=
        h.reduce (p := p) ht (Nat.le_succ_of_le hle) (Phrase.prefixed_fits frames) hs
      rw [he, ← hstep, (mem_signs_iff.mp hsign).2]
      exact .operand (.binary hp hfits hd hsign) (by simp)
  | closeParen =>
    simp only [Expr.stepComplete] at hstep
    split at hstep
    · next t' fs hr =>
      rw [hr] at hp hd
      cases hp with
      | group hp =>
        cases hstep
        rw [he]
        simpa using hp.settle (.operand (.group hd))
    · next t' name args fs hr =>
      rw [hr] at hp hd
      obtain ⟨ks₀, args, h₀, ha, rfl, rfl⟩ := hp.ofCall
      cases hstep
      have hcall : Derives .primary _ _ := .call name (args ++ [(ks₂, t')]) (by
        simp only [List.mem_append, List.mem_singleton]
        rintro a (ha' | rfl)
        · exact ha a ha'
        · exact hd)
      rw [he]
      simpa [separated_append] using h₀.settle (.operand hcall)
    · simp [expected] at hstep
  | comma =>
    simp only [Expr.stepComplete] at hstep
    split at hstep
    · next t' name args fs hr =>
      rw [hr] at hp hd
      obtain ⟨ks₀, args, h₀, ha, rfl, rfl⟩ := hp.ofCall
      cases hstep
      have hcall : Pending _ (.call name _ :: _) := .call h₀ (args ++ [(ks₂, t')]) (by
        simp only [List.mem_append, List.mem_singleton]
        rintro a (ha' | rfl)
        · exact ha a ha'
        · exact hd)
      rw [he]
      simpa [announced] using Reached.operand hcall (by simp)
    · simp [expected] at hstep
  | _ => simp [Expr.stepComplete, expected] at hstep

/-- One more token keeps what has been read a derivation in part. -/
theorem Reached.step {ks : List Kind} {s s' : State} {t : Token} (h : Reached ks s)
    (hstep : step s t = .ok s') : Reached (ks ++ [t.kind]) s' := by
  cases h with
  | operand h hb => exact h.stepOperand hb hstep
  | @callee name ks frames h =>
    obtain ⟨kind, position⟩ := t
    cases kind with
    | openParen =>
      cases hstep
      have hcall : Reached _ (.operand .callParen (.call name [] :: frames)) :=
        .operand (.call h [] (by simp)) fun _ => ⟨name, _, rfl⟩
      simpa [announced] using hcall
    | _ => simp [Expr.step, expected] at hstep
  | complete h ht hs => exact h.stepComplete ht hs hstep

/-- Any number of tokens keeps it so. -/
theorem Reached.run {ks : List Kind} {s s' : State} {ts : List Token} (h : Reached ks s)
    (hrun : run s ts = .ok s') : Reached (ks ++ ts.map Token.kind) s' := by
  induction ts generalizing ks s with
  | nil =>
    cases hrun
    simpa using h
  | cons t rest ih =>
    rw [Expr.run] at hrun
    split at hrun
    · cases hrun
    · next s₁ hstep => simpa using ih (h.step hstep) hrun

/-- What has been read when the formula ends is a comparison. -/
theorem Reached.finish {ks : List Kind} {s : State} {t : Token} {tree : Expr} (h : Reached ks s)
    (hfin : finish s t = .ok tree) : Derives .comparison ks tree := by
  cases h with
  | operand => cases hfin
  | callee => cases hfin
  | complete h ht hs =>
    simp only [Expr.finish] at hfin
    obtain ⟨ks₁, ks₂, he, hp, hd⟩ := h.comparison ht hs
    split at hfin
    · next tree' hr =>
      cases hfin
      rw [hr] at hp hd
      cases hp
      rw [he]
      exact hd
    · cases hfin

end soundness

/-! ### Whole formulas -/

section formulas

variable {tokens ending : List Token} {tree : Expr}

/-- A kind that is not the end of the formula does not say that it is. -/
theorem isFinish_eq_false {t : Token} (h : t.kind ≠ .finish) : t.kind.isFinish = false := by
  obtain ⟨kind, position⟩ := t
  cases kind with
  | finish => exact absurd rfl h
  | _ => rfl

/-- A token that does not say that the formula ends belongs to it. -/
theorem untilFinish_cons {t : Token} (h : t.kind ≠ .finish) (rest : List Token) :
    untilFinish (t :: rest) = (t :: (untilFinish rest).1,
      if rest = [] then t.position + 1 else (untilFinish rest).2) := by
  have ht := isFinish_eq_false h
  cases rest with
  | nil => simp [untilFinish, ht]
  | cons u us =>
    rw [untilFinish]
    · simp [ht]
    · simp

/-- So do several such tokens. -/
theorem fst_untilFinish_append (h : ∀ t ∈ tokens, t.kind ≠ .finish) (rest : List Token) :
    (untilFinish (tokens ++ rest)).1 = tokens ++ (untilFinish rest).1 := by
  induction tokens with
  | nil => rfl
  | cons t us ih =>
    have hus := ih fun u hu => h u (List.mem_cons_of_mem _ hu)
    rw [List.cons_append, untilFinish_cons (h t (by simp)), hus, List.cons_append]

/-- The tokens of a formula are those before the first that says that it ends. -/
theorem untilFinish_append (h : ∀ t ∈ tokens, t.kind ≠ .finish)
    (hend : ∀ t ∈ ending, t.kind = .finish) : (untilFinish (tokens ++ ending)).1 = tokens := by
  have hnone : (untilFinish ending).1 = [] := by
    cases ending with
    | nil => rfl
    | cons t rest =>
      have ht : t.kind.isFinish = true := by rw [hend t (by simp)]; rfl
      cases rest <;> simp [untilFinish, ht]
  rw [fst_untilFinish_append h, hnone, List.append_nil]

/-- Reading a formula is reading its tokens and then its end. -/
theorem ofTokens_append (h : ∀ t ∈ tokens, t.kind ≠ .finish)
    (hend : ∀ t ∈ ending, t.kind = .finish) :
    ∃ position, ofTokens (tokens ++ ending) =
      match run (.operand .other []) tokens with
      | .error e => .error e
      | .ok s => finish s ⟨.finish, position⟩ := by
  rcases hu : untilFinish (tokens ++ ending) with ⟨ts, position⟩
  obtain rfl : ts = tokens := by rw [← untilFinish_append h hend, hu]
  refine ⟨position, ?_⟩
  cases hr : run (.operand .other []) ts with
  | error e => simp only [ofTokens, hu, hr]
  | ok s => simp only [ofTokens, hu, hr]

/-- A formula of the grammar is read as its tree. -/
theorem Derives.ofTokens (hd : Derives .comparison (tokens.map Token.kind) tree)
    (h : ∀ t ∈ tokens, t.kind ≠ .finish) (hend : ∀ t ∈ ending, t.kind = .finish) :
    ofTokens (tokens ++ ending) = .ok tree := by
  obtain ⟨position, hof⟩ := ofTokens_append h hend
  obtain ⟨s, hread, t, fs, rfl, hr⟩ := hd.run .other [] trivial
  simp only [Phrase.level] at hr
  rw [hof, hread tokens rfl]
  simp [finish, hr]

/-- What is read as a tree is a formula of the grammar. -/
theorem derives_of_ofTokens (hok : ofTokens (tokens ++ ending) = .ok tree)
    (h : ∀ t ∈ tokens, t.kind ≠ .finish) (hend : ∀ t ∈ ending, t.kind = .finish) :
    Derives .comparison (tokens.map Token.kind) tree := by
  obtain ⟨position, hof⟩ := ofTokens_append h hend
  rw [hof] at hok
  split at hok
  · cases hok
  · next s hrun =>
    have hstart : Reached [] (.operand .other []) := .operand .nil (by simp)
    exact (hstart.run hrun).finish hok

/-- **The parser accepts exactly its grammar and builds the tree of the grammar**, whatever the
positions of the tokens and whether or not the list says where it ends; and no list of kinds has two
trees. -/
theorem ofTokens_eq_ok_iff_derives (ks : List Kind) (hks : Kind.finish ∉ ks) (tree : Expr) :
    (∀ tokens ending : List Token, tokens.map Token.kind = ks →
      (ending = [] ∨ ∃ position, ending = [⟨.finish, position⟩]) →
      (ofTokens (tokens ++ ending) = .ok tree ↔ Derives .comparison ks tree)) ∧
    ∀ tree', Derives .comparison ks tree → Derives .comparison ks tree' → tree = tree' := by
  have hno : ∀ ts : List Token, ts.map Token.kind = ks → ∀ t ∈ ts, t.kind ≠ .finish := by
    rintro ts rfl t ht hfin
    exact hks (hfin ▸ List.mem_map_of_mem ht)
  refine ⟨?_, ?_⟩
  · rintro tokens ending rfl hend
    have hend' : ∀ t ∈ ending, t.kind = .finish := by
      rcases hend with rfl | ⟨position, rfl⟩ <;> simp
    exact ⟨fun hok => derives_of_ofTokens hok (hno _ rfl) hend',
      fun hd => hd.ofTokens (hno _ rfl) hend'⟩
  · intro tree' hd hd'
    -- both are what the parser makes of the kinds, at any positions
    obtain ⟨tokens, rfl⟩ : ∃ tokens : List Token, tokens.map Token.kind = ks :=
      ⟨ks.map (⟨·, 0⟩), by simp [Function.comp_def]⟩
    have hok : ofTokens (tokens ++ []) = .ok tree := hd.ofTokens (hno _ rfl) (by simp)
    have hok' : ofTokens (tokens ++ []) = .ok tree' := hd'.ofTokens (hno _ rfl) (by simp)
    exact Except.ok.inj (hok.symm.trans hok')

/-- A difference of a difference: the chain associates to the left, and only so. -/
theorem ofTokens_eq_ok_iff_derives_difference :
    let ks : List Kind := [.word "a", .operator "-", .word "b", .operator "-", .word "c"]
    let word := fun name => Expr.literal (.text name)
    let tree := Expr.binary .subtract (.binary .subtract (word "a") (word "b")) (word "c")
    Kind.finish ∉ ks ∧ Derives .comparison ks tree ∧
      ∀ tree', Derives .comparison ks tree' → tree = tree' := by
  intro ks word tree
  have hks : Kind.finish ∉ ks := by simp [ks]
  have h := ofTokens_eq_ok_iff_derives ks hks tree
  have hd := (h.1 (ks.map (⟨·, 7⟩)) [⟨.finish, 3⟩] rfl (.inr ⟨3, rfl⟩)).mp rfl
  exact ⟨hks, hd, fun tree' hd' => h.2 tree' hd hd'⟩

end formulas

end Expr

end RecordFormula
