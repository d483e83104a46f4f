import RecordFormula.Function.Texts
import RecordFormula.Proofs.Pattern.Literals
import RecordFormula.Proofs.Pattern.Matches

/-!
# Replacing plain text

A pattern that is no regular expression, or that holds no character with a meaning of its own, is
searched for as it stands.

* `Texts.replaceEach` — a text with every occurrence of another one replaced, from left to right, where
  the search goes on behind each occurrence.
* **The first match of plain text is its first occurrence** (`Pattern.findText?_eq_some`,
  `Pattern.findText?_eq_none`), and **replacing the matches is replacing the occurrences**
  (`Texts.assemble_matchesFrom`).
* **Replacing a plain pattern** by a replacement without references **replaces its occurrences**
  (`Texts.replace_literal`).
-/

namespace RecordFormula

namespace Texts

/-- Characters in which every occurrence of a needle is replaced, from left to right. The search goes
on behind an occurrence, so that no two of them overlap. -/
def replaceEach (needle replacement : List Char) : List Char → List Char
  | [] => []
  | c :: rest =>
    if needle <+: c :: rest then
      replacement ++ replaceEach needle replacement (rest.drop (needle.length - 1))
    else c :: replaceEach needle replacement rest
termination_by cs => cs.length
decreasing_by
  · simp only [List.length_drop, List.length_cons]
    omega
  · exact Nat.lt_succ_self _

variable {needle replacement cs before rest : List Char}

/-- An occurrence at the start is replaced. -/
theorem replaceEach_append (hneedle : needle ≠ []) :
    replaceEach needle replacement (needle ++ rest) =
      replacement ++ replaceEach needle replacement rest := by
  obtain ⟨c, ds, rfl⟩ := List.exists_cons_of_ne_nil hneedle
  have hprefix : c :: ds <+: c :: (ds ++ rest) := List.prefix_append (c :: ds) rest
  rw [List.cons_append, replaceEach, if_pos hprefix, List.length_cons, Nat.add_sub_cancel,
    List.drop_left]

/-- **What comes before the first occurrence stays.** -/
theorem replaceEach_of_first (h : ∀ i < before.length, ¬ needle <+: (before ++ rest).drop i) :
    replaceEach needle replacement (before ++ rest) = before ++ replaceEach needle replacement rest := by
  induction before with
  | nil => rfl
  | cons c before ih =>
    have hrest : ∀ i < before.length, ¬ needle <+: (before ++ rest).drop i := fun i hi =>
      h (i + 1) (by simpa using hi)
    have hstart : ¬ needle <+: c :: (before ++ rest) := h 0 (by simp)
    rw [List.cons_append, replaceEach, if_neg hstart, ih hrest, List.cons_append]

/-- **Without an occurrence the text stays.** -/
theorem replaceEach_of_absent (h : ¬ needle <:+: cs) : replaceEach needle replacement cs = cs := by
  have hfirst : ∀ i < cs.length, ¬ needle <+: (cs ++ []).drop i := fun i _ hprefix =>
    h (List.append_nil cs ▸ hprefix.isInfix.trans (List.drop_suffix i _).isInfix)
  have heach : replaceEach needle replacement (cs ++ []) = cs ++ replaceEach needle replacement [] :=
    replaceEach_of_first hfirst
  rwa [List.append_nil, replaceEach, List.append_nil] at heach

end Texts

/-! ### Occurrences -/

namespace Pattern

variable {needle : List Char} {text : Array Char} {n place : Nat} {m : Match}

/-- What stands at a place is what the characters from there on start with. -/
theorem standsAt_iff : standsAt text place needle ↔ needle <+: text.toList.drop place := by
  induction needle generalizing place with
  | nil => simp [standsAt]
  | cons c needle ih =>
    rw [standsAt, Bool.and_eq_true, beq_iff_eq, ih, ← Array.getElem?_toList]
    cases hdrop : text.toList.drop place with
    | nil =>
      have hend : text.toList[place]? = none := by rw [← List.head?_drop, hdrop, List.head?_nil]
      simp [hend]
    | cons d rest =>
      have hhead : text.toList[place]? = some d := by rw [← List.head?_drop, hdrop, List.head?_cons]
      have htail : text.toList.drop (place + 1) = rest := by rw [← List.tail_drop, hdrop, List.tail_cons]
      rw [hhead, htail, List.cons_prefix_cons, Option.some.injEq, eq_comm]

/-- **The first match of plain text is its first occurrence.** -/
theorem findText?_eq_some (h : findText? needle text n place = some m) :
    place ≤ m.start ∧ m = ⟨m.start, m.start + needle.length, []⟩ ∧
      needle <+: text.toList.drop m.start ∧
      ∀ i, place ≤ i → i < m.start → ¬ needle <+: text.toList.drop i := by
  induction n generalizing place with
  | zero => cases h
  | succ n ih =>
    rw [findText?] at h
    split_ifs at h with hstands
    · obtain rfl := Option.some.inj h
      exact ⟨Nat.le_refl _, rfl, standsAt_iff.mp hstands, fun i hle hlt => absurd hle (by simpa using hlt)⟩
    · obtain ⟨hle, hm, hprefix, hfirst⟩ := ih h
      refine ⟨Nat.le_of_succ_le hle, hm, hprefix, fun i hplace hi => ?_⟩
      rcases Nat.eq_or_lt_of_le hplace with rfl | hlt
      · rwa [standsAt_iff] at hstands
      · exact hfirst i hlt hi

/-- **Where there is no match, there is no occurrence.** -/
theorem findText?_eq_none (h : findText? needle text n place = none) {i : Nat} (hplace : place ≤ i)
    (hi : i < place + n) : ¬ needle <+: text.toList.drop i := by
  induction n generalizing place with
  | zero => omega
  | succ n ih =>
    rw [findText?] at h
    split_ifs at h with hstands
    rcases Nat.eq_or_lt_of_le hplace with rfl | hlt
    · rwa [standsAt_iff] at hstands
    · exact ih h hlt (by omega)

end Pattern

namespace Texts

open Pattern

variable {needle replacement : List Char} {text : Array Char} {n place : Nat}

/-- The characters from one place to another. -/
theorem slice_eq (start stop : Nat) :
    slice text start stop = (text.toList.drop start).take (stop - start) := by
  rw [slice, Array.toList_extract, List.extract_eq_take_drop]

/-- They are followed by those behind them. -/
theorem slice_append_drop {start stop : Nat} (h : start ≤ stop) :
    slice text start stop ++ text.toList.drop stop = text.toList.drop start := by
  have hdrop : text.toList.drop stop = (text.toList.drop start).drop (stop - start) := by
    rw [List.drop_drop, Nat.add_sub_cancel' h]
  rw [slice_eq, hdrop, List.take_append_drop]

/-- **Replacing the matches is replacing the occurrences.** -/
theorem assemble_matchesFrom (hneedle : needle ≠ []) {last : Option Nat}
    (hn : text.size < place + n) :
    assemble text (fun _ => replacement) place ((Searcher.plain needle).matchesFrom text n place last) =
      replaceEach needle replacement (text.toList.drop place) := by
  -- the rest of the text, if there is no further match
  have hrest : ∀ place, slice text place text.size = text.toList.drop place := by
    intro place
    rw [slice_eq, List.take_of_length_le (by simp)]
  induction n generalizing place last with
  | zero =>
    have hend : text.toList.drop place = [] := List.drop_eq_nil_of_le (by simpa using hn.le)
    rw [Searcher.matchesFrom, assemble, hrest, hend, replaceEach]
  | succ n ih =>
    rw [Searcher.matchesFrom, Searcher.find?]
    cases hfind : findText? needle text (text.size + 1 - place) place with
    | none =>
      have hnone : ¬ needle <:+: text.toList.drop place := by
        intro hinfix
        obtain ⟨t, hprefix, hsuffix⟩ := List.infix_iff_prefix_suffix.mp hinfix
        have hlength : 0 < t.length := (List.length_pos_iff.mpr hneedle).trans_le hprefix.length_le
        have hsize : t.length ≤ text.size - place := by simpa using hsuffix.length_le
        rw [List.suffix_iff_eq_drop.mp hsuffix, List.drop_drop] at hprefix
        refine findText?_eq_none hfind (Nat.le_add_right _ _) ?_ hprefix
        rw [List.length_drop, Array.length_toList]
        omega
      rw [replaceEach_of_absent hnone, ← hrest, assemble]
    | some m =>
      obtain ⟨hle, hm, ⟨after, hafter⟩, hfirst⟩ := findText?_eq_some hfind
      have hlength : 0 < needle.length := List.length_pos_iff.mpr hneedle
      have hstop : m.stop = m.start + needle.length := by rw [hm]
      have hmove : ¬ (m.start = m.stop ∧ some m.stop = last) := fun h => by omega
      have hdrop : after = text.toList.drop m.stop := by
        rw [hstop, ← List.drop_drop, ← hafter, List.drop_left]
      have hbefore : ∀ i < (slice text place m.start).length,
          ¬ needle <+: (slice text place m.start ++ text.toList.drop m.start).drop i := by
        intro i hi
        rw [slice_eq, List.length_take] at hi
        rw [slice_append_drop hle, List.drop_drop]
        exact hfirst _ (Nat.le_add_right _ _) (by omega)
      simp only [if_neg hmove, assemble]
      rw [ih (by omega), ← slice_append_drop hle, replaceEach_of_first hbefore, ← hafter, hdrop,
        replaceEach_append hneedle]

/-- Characters among which there is no dollar sign are a replacement of themselves. -/
theorem template_eq_map (hdollar : '$' ∉ replacement) : template replacement = replacement.map .char := by
  rw [template]
  induction replacement with
  | nil => rfl
  | cons c rest ih =>
    rw [List.mem_cons, not_or] at hdollar
    rw [List.length_cons, pieces, if_neg (Ne.symm hdollar.1)]
    exact congrArg (Piece.char c :: ·) (ih hdollar.2)

/-- **What searches for plain text replaces its occurrences.** -/
theorem replaceAll_plain (hneedle : needle ≠ []) (hdollar : '$' ∉ replacement) (cs : List Char) :
    (Matcher.mk (.plain needle) []).replaceAll cs replacement = replaceEach needle replacement cs := by
  have hexpand : ∀ m, (template replacement).flatMap (Piece.expand [] cs.toArray m) = replacement := by
    intro m
    rw [template_eq_map hdollar, List.flatMap_map]
    exact List.flatMap_singleton' replacement
  rw [Matcher.replaceAll, Searcher.matches]
  simp only [hexpand]
  rw [assemble_matchesFrom hneedle (by omega), List.drop_zero]

/-- **A pattern that stands for itself is replaced wherever it occurs.** The pattern is not empty, its
escaped form is not too large, and either it holds no character with a meaning of its own or it is
rejected as a regular expression; and the replacement refers to no groups. Then replacing succeeds and
gives the text with its occurrences replaced, from left to right and without overlaps. A text in which
the pattern does not occur is given back as it is. -/
theorem replace_literal {args : List Value} (hpattern : Arguments.text args 1 ≠ "")
    (hfits : (Matcher.ofRegex? (escaped (Arguments.text args 1).toList)).isSome)
    (hliteral : (∀ c ∈ (Arguments.text args 1).toList, c ∉ reserved) ∨
      Matcher.ofRegex? (Arguments.text args 1).toList = none)
    (hdollar : '$' ∉ (Arguments.text args 2).toList) :
    replace args = .ok (.text (String.ofList (replaceEach (Arguments.text args 1).toList
      (Arguments.text args 2).toList (Arguments.text args 0).toList))) ∧
    (¬ (Arguments.text args 1).toList <:+: (Arguments.text args 0).toList →
      replace args = .ok (.text (Arguments.text args 0))) := by
  have hneedle : (Arguments.text args 1).toList ≠ [] := by simpa using hpattern
  have hescaped : Matcher.ofRegex? (escaped (Arguments.text args 1).toList) =
      some ⟨.plain (Arguments.text args 1).toList, []⟩ := by
    rw [Matcher.ofRegex?_escaped hneedle] at hfits ⊢
    split_ifs at hfits ⊢
    · rfl
    · cases hfits
  -- either the text is its own escaped form, or the escaped form is what is tried next
  have hmatcher : Matcher.ofChars? (Arguments.text args 1).toList =
      some ⟨.plain (Arguments.text args 1).toList, []⟩ := by
    rcases hliteral with hplain | hnone
    · rw [Matcher.ofChars?, hescaped, ← hescaped, escaped_eq_self hplain, Option.or_self]
    · rw [Matcher.ofChars?, hnone, Option.none_or, hescaped]
  have hreplace : replace args = .ok (.text (String.ofList (replaceEach (Arguments.text args 1).toList
      (Arguments.text args 2).toList (Arguments.text args 0).toList))) := by
    have hempty : (Arguments.text args 1).isEmpty = false := by simpa using hpattern
    rw [replace, replaceAll, hempty, hmatcher]
    simp only [Bool.false_eq_true, if_false, replaceAll_plain hneedle hdollar]
    rfl
  refine ⟨hreplace, fun hoccurs => ?_⟩
  rw [hreplace, replaceEach_of_absent hoccurs, String.ofList_toList]

/-- An opening parenthesis alone is no regular expression. -/
theorem replace_literal_parenthesis :
    Matcher.ofRegex? ['('] = none ∧ (Matcher.ofRegex? (escaped ['('])).isSome ∧
      replace [.text "f(x) (y", .text "(", .text "<"] = .ok (.text "f<x) <y") := by
  have hnone : Matcher.ofRegex? ['('] = none := rfl
  have hfits : (Matcher.ofRegex? (escaped ['('])).isSome := rfl
  have hreplaced : replaceEach ['('] ['<'] "f(x) (y".toList = "f<x) <y".toList := by
    simp [replaceEach]
  have hreplace := (@replace_literal [.text "f(x) (y", .text "(", .text "<"]
    (by decide) hfits (.inr hnone) (by decide)).1
  refine ⟨hnone, hfits, hreplace.trans ?_⟩
  exact congrArg (fun cs => Except.ok (Value.text (String.ofList cs))) hreplaced

end Texts

end RecordFormula
