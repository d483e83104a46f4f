import Mathlib.Tactic.FinCases
import Mathlib.Tactic.SplitIfs
import RecordFormula.Pattern.Replacement

/-!
# Literal patterns

A text with a backslash before each character that has a meaning of its own in patterns is a pattern
of the text itself.

* **The escaped form of a text is read as its characters** (`Pattern.ofChars?_escaped`), and means the
  text (`Pattern.meaning_literal`).
* **The matcher of the escaped form searches for the text** (`Pattern.Matcher.ofRegex?_escaped`), if
  the text is not too large.
* A text without such characters is its own escaped form (`Pattern.escaped_eq_self`).
-/

namespace RecordFormula

namespace Pattern

variable {c : Char} {cs rest : List Char} {r : Reader}

/-! ### Reading -/

/-- The characters of a text, as patterns. -/
def literals (cs : List Char) : List Pattern := cs.map fun c => .char c false

/-- A text without characters that have a meaning of their own is its own escaped form. -/
theorem escaped_eq_self (h : ∀ c ∈ cs, c ∉ reserved) : escaped cs = cs := by
  induction cs with
  | nil => rfl
  | cons c rest ih =>
    have hc : reserved.contains c = false := by simpa using h c (by simp)
    have hrest : escaped rest = rest := ih fun d hd => h d (List.mem_cons_of_mem c hd)
    rw [escaped] at hrest
    rw [escaped, List.flatMap_cons, hrest, hc]
    rfl

/-- A backslash before a character with a meaning of its own makes it stand for itself. -/
theorem escape?_of_mem_reserved (hc : c ∈ reserved) (spaced : Bool) (rest : List Char) :
    escape? spaced (c :: rest) = some (.char c false, rest) := by
  simp only [reserved] at hc
  fin_cases hc <;> rfl

namespace Reader

/-- So the reader takes it. -/
theorem step?_escape (hc : c ∈ reserved) (r : Reader) (rest : List Char) :
    r.step? ('\\' :: c :: rest) = some (r.push (.char c false), rest) := by
  rw [step?, escape?_of_mem_reserved hc]
  rfl

/-- The reader takes any other character as it stands. -/
theorem step?_of_not_mem_reserved (hc : c ∉ reserved) (r : Reader) (rest : List Char) :
    r.step? (c :: rest) = some (r.push (.char c false), rest) := by
  unfold step?
  split <;> simp_all [reserved]

/-- Items that are taken one by one are in front of the earlier ones. -/
theorem foldl_push (ps : List Pattern) (r : Reader) :
    ps.foldl push r = { r with items := ps.reverse ++ r.items } := by
  induction ps generalizing r with
  | nil => rfl
  | cons p rest ih => simp [ih, push]

/-- **The reader takes the characters of an escaped text one by one.** -/
theorem run?_escaped (hspaced : r.spaced = false) {n : Nat} (hn : (escaped cs).length < n) :
    run? n r (escaped cs) = some ((literals cs).foldl push r) := by
  have hvisible : ∀ ds, visible r.spaced ds = ds := fun ds => by rw [hspaced]; rfl
  obtain ⟨n, rfl⟩ := Nat.exists_eq_succ_of_ne_zero (Nat.ne_zero_of_lt hn)
  induction cs generalizing r n with
  | nil =>
    rw [run?, hvisible]
    rfl
  | cons c rest ih =>
    have hcons : escaped (c :: rest) =
        (if reserved.contains c then ['\\', c] else [c]) ++ escaped rest := rfl
    have hstep : ∃ d ds, escaped (c :: rest) = d :: ds ∧
        r.step? (d :: ds) = some (r.push (.char c false), escaped rest) := by
      rw [hcons]
      split_ifs with hc
      · exact ⟨_, _, rfl, step?_escape (by simpa using hc) r _⟩
      · exact ⟨_, _, rfl, step?_of_not_mem_reserved (by simpa using hc) r _⟩
    have hlength : (escaped rest).length < n := by
      rw [hcons, List.length_append] at hn
      split_ifs at hn <;> simp at hn <;> omega
    obtain ⟨n, rfl⟩ := Nat.exists_eq_succ_of_ne_zero (Nat.ne_zero_of_lt hlength)
    obtain ⟨d, ds, hds, hstep⟩ := hstep
    have hnext := ih (r := r.push (.char c false)) hspaced hvisible n hlength
    rw [hds, run?, hvisible]
    simp only [hstep, Option.bind_eq_bind, Option.bind_some, hnext]
    rfl

end Reader

/-- Characters are not nested. -/
theorem depth_literals (cs : List Char) : (ofSequence (literals cs)).depth ≤ 1 := by
  have hall : ∀ cs, depthOfAll (literals cs) = 0 := by
    intro cs
    induction cs with
    | nil => rfl
    | cons c rest ih =>
      rw [literals] at ih
      simp [literals, depthOfAll, depth, ih]
  match cs with
  | [] => simp [literals, ofSequence, depth]
  | [c] => simp [literals, ofSequence, depth]
  | c :: d :: rest =>
    have hdepth := hall (c :: d :: rest)
    simp only [literals, List.map_cons] at hdepth
    simp [literals, ofSequence, depth, hdepth]

/-- **The escaped form of a text is read as its characters.** -/
theorem ofChars?_escaped (cs : List Char) : ofChars? (escaped cs) = some (ofSequence (literals cs)) := by
  have hrun : Reader.run? ((escaped cs).length + 1) Reader.start (escaped cs) =
      some ((literals cs).foldl Reader.push Reader.start) :=
    Reader.run?_escaped rfl (Nat.lt_succ_self _)
  have hdepth : (ofSequence (literals cs)).depth ≤ greatestDepth :=
    Nat.le_trans (depth_literals cs) (by decide)
  rw [ofChars?, hrun, Reader.foldl_push]
  simp [Reader.start, Reader.finish?, Reader.content, ofChoices, hdepth]

/-! ### Meaning -/

/-- A character means the text of it. -/
theorem charMeaning?_initial (c : Char) :
    charMeaning? Mode.initial c false = some (.text [c]) := by
  have hclosed : closed Mode.initial (.singleton c) = .singleton c := rfl
  have hsingle : (CharSet.singleton c).single? = some c := by
    simp [CharSet.single?, CharSet.singleton, Char.ofNat_toNat]
  simp [charMeaning?, hclosed, Node.ofSet, hsingle]

/-- Characters mean the texts of them. -/
theorem meanings?_literals (cs : List Char) :
    meanings? Mode.initial (literals cs) = some (cs.map fun c => .text [c], Mode.initial) := by
  induction cs with
  | nil => rfl
  | cons c rest ih =>
    rw [literals] at ih
    simp [literals, meanings?, meaning?, charMeaning?_initial, ih]

/-- Neighbouring texts are one. -/
theorem ofSequence_texts (hcs : cs ≠ []) : Node.ofSequence (cs.map fun c => .text [c]) = .text cs := by
  have hitems : ∀ cs : List Char,
      (cs.map fun c => Node.text [c]).flatMap Node.items = cs.map fun c => .text [c] := by
    intro cs
    induction cs with
    | nil => rfl
    | cons c rest ih => rw [List.map_cons, List.flatMap_cons, ih]; rfl
  have hjoin : ∀ c cs, ((c :: cs).map fun c => Node.text [c]).foldr Node.before [] = [.text (c :: cs)] := by
    intro c cs
    induction cs generalizing c with
    | nil => rfl
    | cons d rest ih => rw [List.map_cons, List.foldr_cons, ih]; rfl
  obtain ⟨c, rest, rfl⟩ := List.exists_cons_of_ne_nil hcs
  rw [Node.ofSequence, hitems, hjoin, Node.chain]

/-- **The characters of a text that is not empty mean the text**, and keep nothing. -/
theorem meaning_literal (hcs : cs ≠ []) :
    meaning? Mode.initial (ofSequence (literals cs)) = some (.text cs, Mode.initial) ∧
      namedGroups (ofSequence (literals cs)) = [] := by
  match cs with
  | [] => cases hcs rfl
  | [c] => simp [literals, ofSequence, meaning?, charMeaning?_initial, namedGroups]
  | c :: d :: rest =>
    have hnames : ∀ cs, namedGroups.namedGroupsOfAll (literals cs) = [] := by
      intro cs
      induction cs with
      | nil => rfl
      | cons c rest ih =>
        rw [literals] at ih
        simp [literals, namedGroups.namedGroupsOfAll, namedGroups, ih]
    have hsequence : ofSequence (literals (c :: d :: rest)) = .sequence (literals (c :: d :: rest)) := rfl
    rw [hsequence, meaning?, meanings?_literals, namedGroups, hnames]
    simp only [Option.map_some, ofSequence_texts hcs, and_self]

/-- **The matcher of the escaped form of a text searches for the text**, unless that is too large. -/
theorem Matcher.ofRegex?_escaped (hcs : cs ≠ []) :
    ofRegex? (escaped cs) = if (Node.text cs).fits then some ⟨.plain cs, []⟩ else none := by
  obtain ⟨hmeaning, hnames⟩ := meaning_literal hcs
  rw [ofRegex?, ofChars?_escaped, Option.bind_some, ofPattern?, hmeaning, hnames]
  by_cases hfits : (Node.text cs).fits <;> simp [Node.searcher?, hfits]

end Pattern

end RecordFormula
