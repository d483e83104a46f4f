import RecordFormula.Proofs.Syntax.Parsing

/-!
# Where tokens stop being a formula

A list of tokens that is no formula is refused at its first token with which no formula goes on.

* `Viable` — some formula starts with the tokens.
* **What has been read can be completed** (`Reached.completable`): every open parenthesis and call
  is closed, and every sign gets its operand. So tokens that are read without an error are viable
  (`viable_of_run`).
* **What is refused cannot be completed** (`ofTokens_refused`, `ofTokens_ended`), since an error
  comes from one token, whatever follows it (`of_run_eq_error`, `of_step_eq_error`).
* **An error points at the first token that does not fit** (`ofTokens_eq_error_at`).
-/

namespace RecordFormula

namespace Expr

open Token (Kind)

/-- Some formula starts with the tokens. -/
def Viable (tokens : List Token) : Prop := ∃ rest tree, ofTokens (tokens ++ rest) = .ok tree

/-! ### Completions -/

section completions

/-- A primary may stand anywhere. -/
theorem Phrase.primary_fits (frames : List Frame) : Phrase.primary.Fits frames :=
  (Phrase.prefixed_fits frames).mono (by decide)

/-- A phrase on top of frames can be completed to a formula: the frames are taken off one by one,
and what is open is closed. -/
theorem Pending.completable {ks ks' : List Kind} {frames : List Frame} (h : Pending ks frames)
    {p : Phrase} {t : Expr} (ht : Derives p ks' t) (hf : p.Fits frames) :
    ∃ rest tree, Derives .comparison (ks ++ ks' ++ rest) tree := by
  induction h generalizing p ks' t with
  | nil =>
    refine ⟨[], t, ?_⟩
    simpa using ht.loosen (Nat.zero_le _)
  | @unary ks frames sign op h hs ih =>
    have hsigned : Derives .prefixed (.operator sign :: ks') (.unary op t) :=
      .signed hs (ht.loosen hf)
    obtain ⟨rest, tree, hd⟩ := ih hsigned (Phrase.prefixed_fits frames)
    exact ⟨rest, tree, by simpa using hd⟩
  | @binary q ks ks₁ left frames sign op h hq l hs ih =>
    rw [Phrase.Fits, (mem_signs_iff.mp hs).2] at hf
    have hoperand : q.operand.level ≤ p.level := by
      cases q <;> simp only [Phrase.operand, Phrase.level] at hf ⊢ <;> omega
    have hchain : Derives q (ks₁ ++ .operator sign :: ks') (.binary op left t) :=
      .chain l hs (ht.loosen hoperand)
    obtain ⟨rest, tree, hd⟩ := ih hchain hq
    exact ⟨rest, tree, by simpa using hd⟩
  | @group ks frames h ih =>
    have hgroup : Derives .primary (.openParen :: (ks' ++ [.closeParen])) t :=
      .group (ht.loosen (Nat.zero_le _))
    obtain ⟨rest, tree, hd⟩ := ih hgroup (Phrase.primary_fits frames)
    exact ⟨.closeParen :: rest, tree, by simpa using hd⟩
  | @call ks frames name h args ha ih =>
    have hcall : Derives .primary _ _ := .call name (args ++ [(ks', t)]) (by
      intro a hmem
      rcases List.mem_append.mp hmem with hmem | hmem
      · exact ha a hmem
      · rw [List.mem_singleton.mp hmem]
        exact ht.loosen (Nat.zero_le _))
    obtain ⟨rest, tree, hd⟩ := ih hcall (Phrase.primary_fits frames)
    refine ⟨.closeParen :: rest, tree, ?_⟩
    simpa [separated_append] using hd

/-- **What has been read can be completed.** Where an operand is due, a word is one; a call gets no
arguments. -/
theorem Reached.completable {ks : List Kind} {s : State} (h : Reached ks s) :
    ∃ rest tree, Derives .comparison (ks ++ rest) tree := by
  cases h with
  | @operand before ks frames h hb =>
    obtain ⟨rest, tree, hd⟩ := h.completable (.ofWord "a") (Phrase.primary_fits frames)
    exact ⟨.word "a" :: rest, tree, by simpa using hd⟩
  | @callee name ks frames h =>
    have hcall : Derives .primary _ _ := .call name [] (by simp)
    obtain ⟨rest, tree, hd⟩ := h.completable hcall (Phrase.primary_fits frames)
    refine ⟨.openParen :: .closeParen :: rest, tree, ?_⟩
    simpa [separated] using hd
  | @complete ks ks' t frames h ht hs => exact h.completable ht (Phrase.prefixed_fits frames)

/-- Tokens that are read without an error are viable. -/
theorem viable_of_run {ts : List Token} (hno : ∀ t ∈ ts, t.kind ≠ .finish) {s : State}
    (hrun : run (.operand .other []) ts = .ok s) : Viable ts := by
  have hstart : Reached [] (.operand .other []) := .operand .nil (by simp)
  obtain ⟨ks, tree, hd⟩ := (hstart.run hrun).completable
  rw [List.nil_append] at hd
  -- the positions of the further tokens do not matter
  let rest : List Token := ks.map fun k => ⟨k, 0⟩
  have hkinds : (ts ++ rest).map Token.kind = ts.map Token.kind ++ ks := by
    simp [rest, Function.comp_def]
  refine ⟨rest, tree, ?_⟩
  have hok : ofTokens ((ts ++ rest) ++ []) = .ok tree := by
    apply Derives.ofTokens
    · rw [hkinds]
      exact hd
    · intro t ht hfin
      rcases List.mem_append.mp ht with ht | ht
      · exact hno t ht hfin
      · obtain ⟨k, hk, rfl⟩ := List.mem_map.mp ht
        obtain rfl : k = .finish := hfin
        exact hd.finish_notMem (List.mem_append_right _ hk)
    · simp
  rwa [List.append_nil] at hok

end completions

/-! ### Errors -/

section errors

variable {s : State} {t : Token} {ts : List Token} {e : ParseError}

/-- An error names the token that is read when it comes up. -/
def ParseError.PointsAt (e : ParseError) (t : Token) : Prop :=
  e.found = t.kind ∧ e.position = t.position

/-- That a token is not what it has to be points at the token. -/
theorem pointsAt_of_expected {α : Type} {what : Expectation}
    (h : (expected what t : Except ParseError α) = .error e) : e.PointsAt t := by
  obtain rfl := Except.error.inj h
  exact ⟨rfl, rfl⟩

/-- That no operand starts with a token points at the token. -/
theorem pointsAt_of_unexpected {α : Type}
    (h : (unexpected t : Except ParseError α) = .error e) : e.PointsAt t := by
  obtain rfl := Except.error.inj h
  exact ⟨rfl, rfl⟩

/-- An error where an operand is due points at the token. -/
theorem of_stepOperand_eq_error {before : Before} {frames : List Frame}
    (h : stepOperand before frames t = .error e) : e.PointsAt t := by
  unfold stepOperand at h
  split at h
  case h_7 =>
    split at h
    · cases h
    · exact pointsAt_of_unexpected h
  case h_8 =>
    split at h
    · cases h
    · exact pointsAt_of_expected h
    · exact pointsAt_of_unexpected h
  all_goals first
    | exact pointsAt_of_unexpected h
    | cases h

/-- An error after an operand points at the token. -/
theorem of_stepComplete_eq_error {tree : Expr} {frames : List Frame}
    (h : stepComplete tree frames t = .error e) : e.PointsAt t := by
  unfold stepComplete at h
  split at h
  · split at h
    · cases h
    · exact pointsAt_of_expected h
  · split at h
    · cases h
    · cases h
    · exact pointsAt_of_expected h
  · split at h
    · cases h
    · exact pointsAt_of_expected h
  · exact pointsAt_of_expected h

/-- An error points at the token that is read. -/
theorem of_step_eq_error (h : step s t = .error e) : e.PointsAt t := by
  cases s with
  | operand before frames => exact of_stepOperand_eq_error h
  | callee name frames =>
    simp only [step] at h
    split at h
    · cases h
    · exact pointsAt_of_expected h
  | complete tree frames => exact of_stepComplete_eq_error h

/-- An error at the end of the formula points at this end. -/
theorem of_finish_eq_error (h : finish s t = .error e) : e.PointsAt t := by
  cases s with
  | operand before frames => exact pointsAt_of_unexpected h
  | callee name frames => exact pointsAt_of_expected h
  | complete tree frames =>
    simp only [finish] at h
    split at h
    · cases h
    · exact pointsAt_of_expected h

/-- Tokens are read one after the other. -/
theorem run_append (ts' : List Token) :
    run s (ts ++ ts') =
      match run s ts with
      | .error e => .error e
      | .ok s' => run s' ts' := by
  induction ts generalizing s with
  | nil => rfl
  | cons t rest ih =>
    rw [List.cons_append, run, run]
    cases step s t with
    | error e => rfl
    | ok s' => exact ih

/-- An error comes from one token, and those before it are read without one. -/
theorem of_run_eq_error (h : run s ts = .error e) :
    ∃ before t after s', ts = before ++ t :: after ∧ run s before = .ok s' ∧
      step s' t = .error e := by
  induction ts generalizing s with
  | nil => cases h
  | cons t rest ih =>
    rw [run] at h
    cases hstep : step s t with
    | error e' =>
      rw [hstep] at h
      exact ⟨[], t, rest, s, rfl, rfl, hstep.trans h⟩
    | ok s₁ =>
      rw [hstep] at h
      obtain ⟨before, u, after, s', rfl, hrun, herror⟩ := ih h
      refine ⟨t :: before, u, after, s', rfl, ?_, herror⟩
      rw [run, hstep]
      exact hrun

end errors

/-! ### Refusals -/

section refusals

variable {ts rest : List Token} {t : Token} {s : State} {e : ParseError}

/-- A formula ends where it is said to end first, whatever follows. -/
theorem untilFinish_append_finish (h : ∀ t ∈ ts, t.kind ≠ .finish) (position : Nat)
    (rest : List Token) :
    untilFinish (ts ++ ⟨.finish, position⟩ :: rest) = (ts, position) := by
  induction ts with
  | nil => cases rest <;> rfl
  | cons t us ih =>
    have hus := ih fun u hu => h u (List.mem_cons_of_mem _ hu)
    rw [List.cons_append, untilFinish_cons (h t (by simp)), hus]
    simp

/-- **A token that is refused is refused whatever follows it.** -/
theorem ofTokens_refused (hno : ∀ u ∈ ts, u.kind ≠ .finish) (ht : t.kind ≠ .finish)
    (hrun : run (.operand .other []) ts = .ok s) (hstep : step s t = .error e)
    (rest : List Token) : ofTokens (ts ++ t :: rest) = .error e := by
  have hts : (untilFinish (ts ++ t :: rest)).1 = ts ++ t :: (untilFinish rest).1 := by
    rw [fst_untilFinish_append hno, untilFinish_cons ht]
  have hread : run (.operand .other []) (ts ++ t :: (untilFinish rest).1) = .error e := by
    rw [run_append, hrun]
    simp [run, hstep]
  simp only [ofTokens, hts, hread]

/-- The end of a formula is read after its tokens, whatever follows it. -/
theorem ofTokens_ended (hno : ∀ u ∈ ts, u.kind ≠ .finish)
    (hrun : run (.operand .other []) ts = .ok s) (position : Nat) (rest : List Token) :
    ofTokens (ts ++ ⟨.finish, position⟩ :: rest) = finish s ⟨.finish, position⟩ := by
  simp only [ofTokens, untilFinish_append_finish hno, hrun]

/-- Tokens are a formula whether or not they say where it ends. -/
theorem ofTokens_ended_of_ok (hno : ∀ u ∈ ts, u.kind ≠ .finish) {tree : Expr}
    (h : ofTokens ts = .ok tree) (position : Nat) :
    ofTokens (ts ++ [⟨.finish, position⟩]) = .ok tree := by
  rw [← List.append_nil ts] at h
  have hd : Derives .comparison (ts.map Token.kind) tree := derives_of_ofTokens h hno (by simp)
  exact hd.ofTokens hno (by simp)

/-- What is no formula is refused at one of its tokens: those before it are viable, and with it they
are refused whatever follows. -/
theorem exists_refused (hno : ∀ u ∈ ts, u.kind ≠ .finish) {position : Nat}
    (herror : ofTokens (ts ++ [⟨.finish, position⟩]) = .error e) :
    ∃ before t after, ts ++ [⟨.finish, position⟩] = before ++ t :: after ∧ e.PointsAt t ∧
      (∀ u ∈ before, u.kind ≠ .finish) ∧ Viable before ∧
      ∀ rest, ofTokens (before ++ t :: rest) = .error e := by
  cases hrun : run (.operand .other []) ts with
  | error e' =>
    obtain ⟨before, t, after, s, rfl, hbefore, hstep⟩ := of_run_eq_error hrun
    have hno' : ∀ u ∈ before, u.kind ≠ .finish := fun u hu => hno u (by simp [hu])
    have ht : t.kind ≠ .finish := hno t (by simp)
    have hrefused := ofTokens_refused hno' ht hbefore hstep
    rw [List.append_assoc, List.cons_append, hrefused] at herror
    obtain rfl := Except.error.inj herror
    refine ⟨before, t, after ++ [⟨.finish, position⟩], by simp, of_step_eq_error hstep, hno', ?_,
      hrefused⟩
    exact viable_of_run hno' hbefore
  | ok s =>
    have hended := ofTokens_ended hno hrun position
    rw [hended] at herror
    refine ⟨ts, ⟨.finish, position⟩, [], rfl, of_finish_eq_error herror, hno, ?_, fun rest => ?_⟩
    · exact viable_of_run hno hrun
    · rw [hended, herror]

/-- **An error points at the first token that does not fit.** Let a list of tokens that says where
it ends be no formula. The error has the kind and the position of one of the tokens; some formula
starts with the tokens before it, and none with these and the token itself. If the token is the end
of the list, those before it are no formula themselves. -/
theorem ofTokens_eq_error_at (ts : List Token) (position : Nat) (e : ParseError)
    (hno : ∀ t ∈ ts, t.kind ≠ .finish)
    (herror : ofTokens (ts ++ [⟨.finish, position⟩]) = .error e) :
    let tokens := ts ++ [⟨.finish, position⟩]
    ∃ k t, tokens[k]? = some t ∧ e.found = t.kind ∧ e.position = t.position ∧
      Viable (tokens.take k) ∧ ¬ Viable (tokens.take (k + 1)) ∧
      (t.kind = .finish → ∀ tree, ofTokens (tokens.take k) ≠ .ok tree) := by
  intro tokens
  obtain ⟨before, t, after, hsplit, ⟨hfound, hposition⟩, hbefore, hviable, hrefused⟩ :=
    exists_refused hno herror
  have htokens : tokens = before ++ [t] ++ after := by simpa using hsplit
  have htake : tokens.take before.length = before := by simp [tokens, hsplit]
  have htake' : tokens.take (before.length + 1) = before ++ [t] := by
    rw [htokens, List.take_left' (by simp)]
  refine ⟨before.length, t, by simp [tokens, hsplit], hfound, hposition, ?_, ?_, ?_⟩
  · rw [htake]
    exact hviable
  · rw [htake']
    rintro ⟨rest, tree, hok⟩
    rw [List.append_assoc, List.singleton_append, hrefused rest] at hok
    cases hok
  · intro hfinish tree hok
    rw [htake] at hok
    obtain ⟨kind, position'⟩ := t
    obtain rfl : kind = .finish := hfinish
    have hended := ofTokens_ended_of_ok hbefore hok position'
    rw [hrefused []] at hended
    cases hended

/-- A dangling comma: the error points at the parenthesis behind it, although more arguments could
follow the comma. -/
theorem ofTokens_eq_error_at_comma :
    let ts : List Token :=
      [⟨.function "SUM", 0⟩, ⟨.openParen, 3⟩, ⟨.number 1.0, 4⟩, ⟨.comma, 5⟩, ⟨.closeParen, 6⟩]
    let tokens := ts ++ [⟨.finish, 7⟩]
    (∀ t ∈ ts, t.kind ≠ .finish) ∧ ofTokens tokens = .error (.expected .argument .closeParen 6) ∧
      ∃ k t, tokens[k]? = some t ∧ .closeParen = t.kind ∧ 6 = t.position ∧
        Viable (tokens.take k) ∧ ¬ Viable (tokens.take (k + 1)) := by
  intro ts tokens
  have hno : ∀ t ∈ ts, t.kind ≠ .finish := by simp [ts]
  have herror : ofTokens tokens = .error (.expected .argument .closeParen 6) := rfl
  obtain ⟨k, t, ht, hfound, hposition, hviable, hnot, -⟩ := ofTokens_eq_error_at ts 7 _ hno herror
  exact ⟨hno, herror, k, t, ht, hfound, hposition, hviable, hnot⟩

end refusals

end Expr

end RecordFormula
