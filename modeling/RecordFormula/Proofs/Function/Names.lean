import Mathlib.Data.List.Basic
import RecordFormula.Function.Leads
import RecordFormula.Proofs.Text.Letters
import RecordFormula.Proofs.Text.Trimming

/-!
# Names

What the tidying of names makes of its own results. A character may be written as several, and what it
is written as need not continue a word where the character did.

* `Leads.written` — what is written for a character; **the ways in which it comes about**
  (`Leads.written_cases`).
* `Leads.startsWord` — whether a word starts behind some characters.
* **A name is tidied part by part** (`Leads.capitalize_append`), and stays as it is if each part does
  (`Leads.capitalize_append_eq_iff`).
* `Leads.Settles` — what it takes at one place that a tidied name stays as it is; **a tidied name stays
  as it is exactly if this holds everywhere** (`Leads.capitalize_capitalize_iff`,
  `Leads.personName_personName_iff`).
-/

namespace RecordFormula

namespace Leads

open Casing (upper lower)

variable {b b' : Bool} {c d : Char} {cs ds : List Char}

/-! ### Characters -/

/-- What is written for a character of a name, at the start of a word or not. -/
def written (atStart : Bool) (c : Char) : List Char := if atStart then upper c else lower c

/-- **What is written for a character**: the character itself; or, for one that continues a word, several
characters none of which is blank, or one that continues a word too. -/
theorem written_cases (b : Bool) (c : Char) :
    written b c = [c] ∨
    (continuesWord c ∧ 1 < (written b c).length ∧ ∀ d ∈ written b c, isBlank d = false) ∨
    ∃ d, written b c = [d] ∧ continuesWord c ∧ continuesWord d := by
  have hletter : ∀ {c}, Letter.isAlphanumeric c → continuesWord c := fun h => by
    rw [continuesWord, h, Bool.true_or]
  have hcases : ∀ {special shifts}, Casing.Lettered special shifts → Casing.Final special shifts →
      Casing.image special shifts c = [c] ∨
      (continuesWord c ∧ 1 < (Casing.image special shifts c).length ∧
        ∀ d ∈ Casing.image special shifts c, isBlank d = false) ∨
      ∃ d, Casing.image special shifts c = [d] ∧ continuesWord c ∧ continuesWord d := by
    intro special shifts hlettered hfinal
    rcases hlettered.image_cases hfinal c with himage | ⟨hc, hseveral⟩ | ⟨d, himage, hc, hd⟩
    · exact .inl himage
    · exact .inr (.inl ⟨hletter hc, hseveral⟩)
    · exact .inr (.inr ⟨d, himage, hletter hc, hletter hd⟩)
  cases b
  · exact hcases Casing.lettered_lower Casing.final_lower
  · exact hcases Casing.lettered_upper Casing.final_upper

/-- Something is written for every character. -/
theorem written_ne_nil (b : Bool) (c : Char) : written b c ≠ [] := by
  rcases written_cases b c with h | ⟨-, h, -⟩ | ⟨d, h, -⟩
  · simp [h]
  · exact List.length_pos_iff.mp (Nat.zero_lt_of_lt h)
  · simp [h]

/-- What is written for a character is written for itself. -/
theorem written_of_mem_written (h : d ∈ written b c) : written b d = [d] := by
  cases b
  · exact Casing.lower_of_mem_lower h
  · exact Casing.upper_of_mem_upper h

/-- No blank is written unless for a blank. -/
theorem isBlank_of_mem_written (hc : isBlank c = false) (h : d ∈ written b c) : isBlank d = false := by
  rcases written_cases b c with hw | ⟨-, -, hblank⟩ | ⟨e, hw, -, he⟩
  · rw [hw, List.mem_singleton] at h
    rwa [h]
  · exact hblank d h
  · rw [hw, List.mem_singleton] at h
    rw [h]
    by_contra hblank
    rw [Bool.not_eq_false] at hblank
    have hunderscore : e ≠ '_' := by
      rintro rfl
      cases hblank
    rw [continuesWord, isAlphanumeric_of_isBlank hblank, Bool.false_or, beq_iff_eq] at he
    exact hunderscore he

/-! ### Parts of names -/

/-- Does a word start behind some characters? The flag says whether one starts in front of them. -/
def startsWord (atStart : Bool) (cs : List Char) : Bool :=
  cs.foldl (fun _ c => !continuesWord c) atStart

/-- Behind a character it matters whether that continues a word. -/
theorem startsWord_cons (b : Bool) (c : Char) (cs : List Char) :
    startsWord b (c :: cs) = startsWord (!continuesWord c) cs := by
  rw [startsWord, List.foldl_cons, startsWord]

/-- So nothing depends on what is in front of it. -/
theorem startsWord_of_ne_nil (hcs : cs ≠ []) (b b' : Bool) : startsWord b cs = startsWord b' cs := by
  obtain ⟨c, rest, rfl⟩ := List.exists_cons_of_ne_nil hcs
  rw [startsWord_cons, startsWord_cons]

/-- The first character of a name and the rest. -/
theorem capitalize_cons (b : Bool) (c : Char) (cs : List Char) :
    capitalize b (c :: cs) = written b c ++ capitalize (!continuesWord c) cs := rfl

/-- **A name is tidied part by part.** -/
theorem capitalize_append (b : Bool) (cs ds : List Char) :
    capitalize b (cs ++ ds) = capitalize b cs ++ capitalize (startsWord b cs) ds := by
  induction cs generalizing b with
  | nil => rfl
  | cons c rest ih =>
    rw [List.cons_append, capitalize_cons, capitalize_cons, ih, startsWord_cons, List.append_assoc]

/-- No name gets shorter. -/
theorem length_le_length_capitalize (b : Bool) (cs : List Char) :
    cs.length ≤ (capitalize b cs).length := by
  induction cs generalizing b with
  | nil => exact Nat.le_refl _
  | cons c rest ih =>
    have hc : 0 < (written b c).length := List.length_pos_iff.mpr (written_ne_nil b c)
    have hrest := ih (!continuesWord c)
    rw [capitalize_cons, List.length_append, List.length_cons]
    omega

/-- **A name stays as it is if each of its parts does.** -/
theorem capitalize_append_eq_iff :
    capitalize b (cs ++ ds) = cs ++ ds ↔
      capitalize b cs = cs ∧ capitalize (startsWord b cs) ds = ds := by
  rw [capitalize_append]
  constructor
  · intro h
    -- no part gets shorter, so none gets longer
    have hlength := congrArg List.length h
    have hcs := length_le_length_capitalize b cs
    have hds := length_le_length_capitalize (startsWord b cs) ds
    rw [List.length_append, List.length_append] at hlength
    exact List.append_inj h (by omega)
  · rintro ⟨hcs, hds⟩
    rw [hcs, hds]

/-- What is written for a character inside a word stays as it is inside a word. -/
theorem capitalize_lower (c : Char) : capitalize false (lower c) = lower c := by
  have hspecial : ∀ p ∈ Casing.lowerSpecial,
      capitalize false (p.2.map Char.ofNat) = p.2.map Char.ofNat := by
    decide +kernel
  have hsingle : ∀ d, lower c = [d] → capitalize false (lower c) = lower c := by
    intro d hd
    have hstay : lower d = [d] := Casing.lower_of_mem_lower (hd ▸ List.mem_singleton_self d)
    rw [hd, capitalize_cons, written, if_neg Bool.false_ne_true, hstay]
    rfl
  rcases Casing.image_cases Casing.lowerSpecial Casing.lowerShifts c with h | ⟨p, hp, -, h⟩ | ⟨s, -, -, h⟩
  · exact hsingle c h
  · rw [lower, h]
    exact hspecial p hp
  · exact hsingle _ h

/-! ### Tidying again -/

/-- What it takes at one place that a tidied name stays as it is. If a word starts with the character,
what is written for it is a tidied name. If the character continues a word but what is written for it
does not, the next character is written in the same way inside a word and at its start. -/
def Settles (atStart : Bool) (c : Char) (rest : List Char) : Prop :=
  (atStart → capitalize true (upper c) = upper c) ∧
    (continuesWord c → startsWord atStart (written atStart c) →
      ∀ d ∈ rest.head?, capitalize true (lower d) = lower d)

/-- A word starts behind what is written for a character if one starts behind the character, and
otherwise only if the character continues a word. -/
theorem startsWord_written (b : Bool) (c : Char) :
    startsWord b (written b c) = !continuesWord c ∨
      continuesWord c ∧ startsWord b (written b c) := by
  cases hc : continuesWord c with
  | true => cases startsWord b (written b c) <;> simp
  | false =>
    have hw : written b c = [c] := by
      rcases written_cases b c with h | ⟨h, -⟩ | ⟨d, -, h, -⟩
      · exact h
      · rw [hc] at h
        cases h
      · rw [hc] at h
        cases h
    rw [hw, startsWord_cons, hc]
    exact .inl rfl

/-- What a second look makes of what is written for a character, if it finds the start of a word where
the first did, or also where the first did not. -/
theorem capitalize_written_iff (h : b' = b ∨ b = false ∧ b' = true) :
    capitalize b' (written b c) = written b c ↔
      (b' ≠ b → capitalize true (lower c) = lower c) ∧ (b → capitalize true (upper c) = upper c) := by
  rcases h with rfl | ⟨rfl, rfl⟩
  · cases b'
    · simp [written, capitalize_lower]
    · simp [written]
  · simp [written]

/-- The places of a text are its start and those of the rest. -/
theorem forall_place_cons {P : List Char → Char → List Char → Prop} :
    (∀ before d after, c :: cs = before ++ d :: after → P before d after) ↔
      P [] c cs ∧ ∀ before d after, cs = before ++ d :: after → P (c :: before) d after := by
  constructor
  · intro h
    exact ⟨h [] c cs rfl, fun before d after hcs => h (c :: before) d after (by rw [hcs]; rfl)⟩
  · rintro ⟨hstart, hrest⟩ before d after hplace
    cases before with
    | nil =>
      obtain ⟨rfl, rfl⟩ := List.cons.inj hplace
      exact hstart
    | cons e before =>
      obtain rfl := (List.cons.inj hplace).1
      exact hrest before d after (List.cons.inj hplace).2

/-- **A tidied name stays as it is exactly if it does at each place.** A second look may find the start
of a word where the first did not; then this matters for the first character only. -/
theorem capitalize_capitalize_iff (h : b' = b ∨ b = false ∧ b' = true) :
    capitalize b' (capitalize b cs) = capitalize b cs ↔
      (b' ≠ b → ∀ d ∈ cs.head?, capitalize true (lower d) = lower d) ∧
        ∀ before c after, cs = before ++ c :: after → Settles (startsWord b before) c after := by
  induction cs generalizing b b' with
  | nil => simp [capitalize]
  | cons c rest ih =>
    -- where the second look is behind what is written for the character
    have hplace : startsWord b' (written b c) = startsWord b (written b c) :=
      startsWord_of_ne_nil (written_ne_nil b c) b' b
    have hafter : startsWord b (written b c) = !continuesWord c ∨
        (!continuesWord c) = false ∧ startsWord b (written b c) = true := by
      simpa using startsWord_written b c
    have hhead : (startsWord b (written b c) ≠ !continuesWord c →
        ∀ d ∈ rest.head?, capitalize true (lower d) = lower d) ↔
        (continuesWord c → startsWord b (written b c) →
          ∀ d ∈ rest.head?, capitalize true (lower d) = lower d) := by
      rcases startsWord_written b c with hsame | ⟨hc, hw⟩
      · rw [hsame]
        cases continuesWord c <;> simp
      · simp [hc, hw]
    rw [capitalize_cons, capitalize_append_eq_iff, hplace, capitalize_written_iff h, ih hafter, hhead,
      forall_place_cons]
    simp only [List.head?_cons, Option.mem_some_iff, forall_eq', Settles, startsWord_cons]
    tauto

/-- A character for which a single one is written settles at once. -/
theorem settles_of_single (h : (written b c).length = 1) (rest : List Char) : Settles b c rest := by
  obtain ⟨d, hd⟩ := List.length_eq_one_iff.mp h
  constructor
  · rintro rfl
    have hupper : upper c = [d] := hd
    have hstay : written true d = [d] := written_of_mem_written (hd ▸ List.mem_singleton_self d)
    rw [hupper, capitalize_cons, hstay]
    rfl
  · intro hc hstart
    have hcontinues : continuesWord d := by
      rcases written_cases b c with hw | ⟨-, hseveral, -⟩ | ⟨e, hw, -, he⟩
      · rwa [← List.singleton_inj.mp (hw.symm.trans hd)]
      · omega
      · rwa [← List.singleton_inj.mp (hw.symm.trans hd)]
    rw [hd, startsWord_cons, hcontinues] at hstart
    cases hstart

/-! ### Whole names -/

/-- A tidied name without blanks at its ends has none there. -/
theorem trim_capitalize {s : String} :
    Text.trim (String.ofList (capitalize true (Text.trim s).toList)) =
      String.ofList (capitalize true (Text.trim s).toList) := by
  have hhead : ∀ c ∈ (Text.trim s).toList.head?, isBlank c = false := fun c hc =>
    Text.isBlank_of_mem_head?_trim hc
  have hlast : ∀ c ∈ (Text.trim s).toList.getLast?, isBlank c = false := fun c hc =>
    Text.isBlank_of_mem_getLast?_trim hc
  generalize (Text.trim s).toList = cs at hhead hlast ⊢
  refine Text.trim_of_ends ?_ ?_ <;> rw [String.toList_ofList]
  · cases cs with
    | nil => simp [capitalize]
    | cons c rest =>
      intro d hd
      rw [capitalize_cons, List.head?_append_of_ne_nil _ (written_ne_nil true c)] at hd
      exact isBlank_of_mem_written (hhead c rfl) (List.mem_of_mem_head? hd)
  · rcases List.eq_nil_or_concat cs with rfl | ⟨before, c, rfl⟩
    · simp [capitalize]
    · intro d hd
      have hwritten : capitalize (startsWord true before) [c] = written (startsWord true before) c := by
        rw [capitalize_cons, capitalize, List.append_nil]
      rw [List.concat_eq_append, capitalize_append, hwritten,
        List.getLast?_append_of_ne_nil _ (written_ne_nil _ c)] at hd
      exact isBlank_of_mem_written (hlast c (by simp)) (List.mem_of_mem_getLast? hd)

/-- **A tidied name stays as it is when it is tidied again, exactly if this holds at each place.** Where
a word starts, what is written for the first character has to be a tidied name, so that one of the
characters that become several capitals does not stand there. And behind a character that continues a
word but for which the last character written does not, the next character has to be written in the
same way inside a word and at its start. So a name for each of whose characters a single one is written
stays as it is. -/
theorem personName_personName_iff (args : List Value) :
    (personName [personName args] = personName args ↔
      ∀ before c after, (Text.trim (Arguments.text args 0)).toList = before ++ c :: after →
        Settles (startsWord true before) c after) ∧
    ((∀ before c after, (Text.trim (Arguments.text args 0)).toList = before ++ c :: after →
        (written (startsWord true before) c).length = 1) →
      personName [personName args] = personName args) := by
  have hiff : personName [personName args] = personName args ↔
      ∀ before c after, (Text.trim (Arguments.text args 0)).toList = before ++ c :: after →
        Settles (startsWord true before) c after := by
    have harg : Arguments.text [personName args] 0 =
        String.ofList (capitalize true (Text.trim (Arguments.text args 0)).toList) := rfl
    have hplaces := @capitalize_capitalize_iff true true
      (Text.trim (Arguments.text args 0)).toList (.inl rfl)
    rw [personName, harg, trim_capitalize, String.toList_ofList, personName, Value.text.injEq,
      String.ofList_inj, hplaces]
    simp
  refine ⟨hiff, fun hsingle => hiff.mpr fun before c after hcs => ?_⟩
  exact settles_of_single (hsingle before c after hcs) after

/-- The sharp s is written as two capitals, and the second one does not stay. -/
theorem personName_sharp_s :
    personName [.text "ß"] = .text "SS" ∧ personName [.text "SS"] = .text "Ss" ∧
      ¬ ∀ s, personName [personName [.text s]] = personName [.text s] := by
  have hfirst : personName [.text "ß"] = .text "SS" := rfl
  have hsecond : personName [.text "SS"] = .text "Ss" := rfl
  refine ⟨hfirst, hsecond, fun h => ?_⟩
  have hstays := h "ß"
  rw [hfirst, hsecond, Value.text.injEq] at hstays
  exact absurd hstays (by decide)

end Leads

end RecordFormula
