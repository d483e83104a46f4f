import RecordFormula.Proofs.Syntax.Refusal

/-!
# The parenthesis of a call

A name of a function waits for its parenthesis. In tokens in which every such name has its
parenthesis right behind it, none waits in vain.

* `Token.Called` — every name of a function has a parenthesis behind it.
* `Expr.State.Awaits` — where the parenthesis of a call is due, it comes next; reading keeps this
  (`Expr.State.Awaits.step`, `Expr.State.Awaits.run`).
* **No parenthesis of a call is missed** (`Expr.ofTokens_ne_openParen`).
-/

namespace RecordFormula

/-- The token right behind every name of a function is an opening parenthesis. -/
def Token.Called (tokens : List Token) : Prop :=
  ∀ k t name, tokens[k]? = some t → t.kind = .function name →
    ∃ position, tokens[k + 1]? = some ⟨.openParen, position⟩

namespace Expr

variable {s s' : State} {t : Token} {tokens ts : List Token} {name : String}

/-- Where the parenthesis of a call is due, it is the first of the tokens. -/
def State.Awaits (s : State) (tokens : List Token) : Prop :=
  ∀ name frames, s = .callee name frames → ∃ position, tokens[0]? = some ⟨.openParen, position⟩

/-- Operators in front of an operand take it, and no parenthesis is due. -/
theorem settle_ne_callee (tree : Expr) (frames frames' : List Frame) :
    settle tree frames ≠ .callee name frames' := by
  fun_induction settle tree frames with
  | case1 tree op frames ih => exact ih
  | case2 tree frames h => exact fun h => nomatch h

/-- The parenthesis of a call is due behind the name of a function only. -/
theorem of_step_eq_callee {frames : List Frame} (h : step s t = .ok (.callee name frames)) :
    t.kind = .function name := by
  have hsettle : ∀ tree frames', (.ok (settle tree frames') : Except ParseError State) ≠
      .ok (.callee name frames) := fun tree frames' heq =>
    settle_ne_callee tree frames' frames (Except.ok.inj heq)
  cases s with
  | operand before frames' =>
    simp only [step, stepOperand] at h
    split at h
    case h_5 heq =>
      obtain ⟨rfl, -⟩ := State.callee.inj (Except.ok.inj h)
      exact heq
    case h_7 =>
      split at h
      · cases h
      · cases h
    case h_8 =>
      split at h
      · exact absurd h (hsettle _ _)
      · cases h
      · cases h
    all_goals first
      | exact absurd h (hsettle _ _)
      | cases h
  | callee name' frames' =>
    simp only [step] at h
    split at h
    · cases h
    · cases h
  | complete tree frames' =>
    simp only [step, stepComplete] at h
    split at h
    · split at h
      · cases h
      · cases h
    · split at h
      · exact absurd h (hsettle _ _)
      · exact absurd h (hsettle _ _)
      · cases h
    · split at h
      · cases h
      · cases h
    · cases h

/-- What closes a parenthesis opens none. -/
theorem closing_ne_openParen (frames : List Frame) : closing frames ≠ .openParen name := by
  unfold closing
  split <;> exact fun h => nomatch h

/-- The parenthesis of a call is missed only where it is due, at a token that is another. -/
theorem of_step_eq_expected {found : Token.Kind} {position : Nat}
    (h : step s t = .error (.expected (.openParen name) found position)) :
    ∃ frames, s = .callee name frames ∧ t.kind ≠ .openParen := by
  have hclosing : ∀ frames (t : Token), (expected (closing frames) t : Except ParseError State) ≠
      .error (.expected (.openParen name) found position) := by
    intro frames t heq
    exact closing_ne_openParen frames (ParseError.expected.inj (Except.error.inj heq)).1
  cases s with
  | operand before frames =>
    simp only [step, stepOperand] at h
    split at h
    case h_7 =>
      split at h
      · cases h
      · cases h
    case h_8 =>
      split at h
      · cases h
      · cases h
      · cases h
    all_goals cases h
  | callee name' frames =>
    simp only [step] at h
    split at h
    · cases h
    · next hne =>
      obtain ⟨hwhat, -⟩ := ParseError.expected.inj (Except.error.inj h)
      obtain rfl := Expectation.openParen.inj hwhat
      exact ⟨frames, rfl, hne⟩
  | complete tree frames =>
    simp only [step, stepComplete] at h
    split at h
    · split at h
      · cases h
      · exact absurd h (hclosing _ _)
    · split at h
      · cases h
      · cases h
      · exact absurd h (hclosing _ _)
    · split at h
      · cases h
      · exact absurd h (hclosing _ _)
    · exact absurd h (hclosing _ _)

/-- After a token that has been read, a parenthesis that is due comes next. -/
theorem State.Awaits.step (hcalled : Token.Called (t :: tokens))
    (hstep : Expr.step s t = .ok s') : s'.Awaits tokens := by
  rintro name frames rfl
  exact hcalled 0 t name rfl (of_step_eq_callee hstep)

/-- After tokens that have been read, a parenthesis that is due comes next; and none has been
missed. -/
theorem State.Awaits.run (h : s.Awaits (ts ++ tokens)) (hcalled : Token.Called (ts ++ tokens)) :
    match Expr.run s ts with
    | .ok s' => s'.Awaits tokens
    | .error e => ∀ name found position, e ≠ .expected (.openParen name) found position := by
  induction ts generalizing s with
  | nil => exact h
  | cons t ts ih =>
    rw [Expr.run]
    cases hstep : Expr.step s t with
    | error e =>
      rintro name found position rfl
      obtain ⟨frames, rfl, hkind⟩ := of_step_eq_expected hstep
      obtain ⟨p, ht⟩ := h name frames rfl
      obtain rfl := Option.some.inj ht
      exact hkind rfl
    | ok s₁ =>
      exact ih (.step hcalled hstep) fun k u name hu => hcalled (k + 1) u name hu

/-- **No parenthesis of a call is missed** in tokens in which every name of a function has its
parenthesis. -/
theorem ofTokens_ne_openParen (hno : ∀ t ∈ ts, t.kind ≠ .finish) {position : Nat}
    (hcalled : Token.Called (ts ++ [⟨.finish, position⟩])) (name : String) (found : Token.Kind)
    (position' : Nat) :
    ofTokens (ts ++ [⟨.finish, position⟩]) ≠
      .error (.expected (.openParen name) found position') := by
  have hstart : (State.operand .other []).Awaits (ts ++ [⟨.finish, position⟩]) :=
    fun _ _ h => nomatch h
  have hawaits := hstart.run hcalled
  intro h
  simp only [ofTokens, untilFinish_append_finish hno] at h
  cases hrun : run (.operand .other []) ts with
  | error e =>
    rw [hrun] at h hawaits
    exact hawaits name found position' (Except.error.inj h)
  | ok s =>
    rw [hrun] at h hawaits
    dsimp only at h
    cases s with
    | operand before frames => cases h
    | callee name' frames =>
      obtain ⟨p, hp⟩ := hawaits name' frames rfl
      cases hp
    | complete tree frames =>
      simp only [finish] at h
      split at h
      · cases h
      · exact closing_ne_openParen _ (ParseError.expected.inj (Except.error.inj h)).1

end Expr

end RecordFormula
