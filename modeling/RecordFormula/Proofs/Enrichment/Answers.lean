import RecordFormula.Enrichment.Answer
import RecordFormula.Proofs.Members
import RecordFormula.Proofs.Number.Whole

/-!
# What is stored of an answer

The cache holds answers as documents. An answer that is brought into range, stored and read again is
the same answer; only one whose sureness is not a finite number cannot be read again, and no answer
that comes from a document is of that kind.

* `Json.Proper` — the documents whose numbers have a spelling.
* `LawfulAnswer` — what storing and reading does to a type of answers.
* **All four types of answers are lawful** (the instances).
-/

namespace RecordFormula

/-- The numbers of a document are integers of 64 bits, with a sign or without, and finite ones. -/
inductive Json.Proper : Json → Prop
  /-- Nothing. -/
  | null : Proper .null
  /-- A truth value. -/
  | boolean (b : Bool) : Proper (.boolean b)
  /-- A whole number in range. -/
  | integer {n : Int} (low : -2 ^ 63 ≤ n) (high : n < 2 ^ 64) : Proper (.integer n)
  /-- A finite number. -/
  | real {x : Float} (h : Number.isFinite x) : Proper (.real x)
  /-- A text. -/
  | text (s : String) : Proper (.text s)
  /-- A list of such documents. -/
  | array {items : List Json} (h : ∀ j ∈ items, Proper j) : Proper (.array items)
  /-- Such documents with names. -/
  | object {members : List (String × Json)} (h : ∀ p ∈ members, Proper p.2) :
    Proper (.object members)

namespace Enrichment

/-- Storing and reading the answers of a type. -/
class LawfulAnswer (α : Type) [Answer α] : Prop where
  /-- Bringing an answer into range twice is bringing it into range. -/
  normalize_normalize (a : α) : Answer.normalize (Answer.normalize a) = Answer.normalize a
  /-- The answer when there is none is in range. -/
  normalize_fallback : Answer.normalize (Answer.fallback : α) = Answer.fallback
  /-- An answer that is stored is read again, if anything is. -/
  decode_encode (a b : α) : Answer.decode? (Answer.encode a) = some b → b = a
  /-- An answer that comes from a document can be read again. -/
  decode_encode_normalize {j : Json} {a : α} : j.Proper → Answer.decode? j = some a →
    Answer.decode? (Answer.encode (Answer.normalize a)) = some (Answer.normalize a)

/-! ### Scores -/

section scores

variable {x : Float}

/-- An infinite number is out of the range of scores. -/
theorem out_of_range (hnan : Number.isNaN x = false) (hfin : ¬ Number.isFinite x) :
    x < 0.0 ∨ 100.0 < x := by
  rw [Number.isFinite_iff] at hfin
  rw [Bool.eq_false_iff, ne_eq, Number.isNaN_iff] at hnan
  rw [Number.lt_iff, Number.lt_iff]
  rcases Number.unpacked_cases x with h | h | h | ⟨hc, h⟩
  · exact absurd h hnan
  · rw [h]
    cases Number.sign x with
    | positive => exact .inr rfl
    | negative => exact .inl rfl
  · exact absurd (by rw [h]; rfl) hfin
  · exact absurd (by rw [h]; rfl) hfin

/-- A score is a limit of the range, or a rounded number that is in range. -/
theorem clampScore_cases (x : Float) :
    clampScore x = 0.0 ∨ clampScore x = 100.0 ∨
      clampScore x = Number.round x ∧ Number.isFinite (Number.round x) ∧
        ¬ Number.round x < 0.0 ∧ ¬ 100.0 < Number.round x := by
  simp only [clampScore]
  split_ifs with hnan hlow hhigh
  · exact .inl rfl
  · exact .inl rfl
  · exact .inr (.inl rfl)
  · refine .inr (.inr ⟨rfl, ?_, hlow, hhigh⟩)
    by_cases hfin : Number.isFinite x
    · exact Number.isFinite_round hfin
    · have hx : Number.round x = x := by simp [Number.round, hfin]
      rw [hx] at hlow hhigh
      exact absurd (out_of_range (by simpa using hnan) hfin) (by simp [hlow, hhigh])

/-- A score is a finite number. -/
theorem isFinite_clampScore (x : Float) : Number.isFinite (clampScore x) := by
  rcases clampScore_cases x with h | h | ⟨h, hfin, -⟩ <;> rw [h]
  · rfl
  · rfl
  · exact hfin

/-- Zero is a score. -/
theorem clampScore_zero : clampScore 0.0 = 0.0 := by
  have hround : Number.round 0.0 = 0.0 := Number.round_of_zero (s := .positive) rfl
  have hnan : Number.isNaN 0.0 = false := rfl
  have hlow : ¬ (0.0 : Float) < 0.0 := by decide +kernel
  have hhigh : ¬ (100.0 : Float) < 0.0 := by decide +kernel
  simp [clampScore, hround, hnan, hlow, hhigh]

/-- A score is not changed by bringing it into range. -/
theorem clampScore_clampScore (x : Float) : clampScore (clampScore x) = clampScore x := by
  rcases clampScore_cases x with h | h | ⟨h, hfin, hlow, hhigh⟩ <;> rw [h]
  · exact clampScore_zero
  · rfl
  · simp [clampScore, Number.isNaN_of_isFinite hfin, Number.round_round, hlow, hhigh]

end scores

/-! ### Parts -/

section parts

/-- A number that is stored is read again, if anything is. -/
theorem decodeNumber?_encodeNumber {x y : Float} (h : decodeNumber? (encodeNumber x) = some y) :
    Number.isFinite x ∧ y = x := by
  unfold encodeNumber at h
  split_ifs at h with hfin
  · exact ⟨hfin, (Option.some.inj h).symm⟩
  · cases h

/-- A finite number is stored as itself. -/
theorem encodeNumber_of_isFinite {x : Float} (h : Number.isFinite x) : encodeNumber x = .real x :=
  if_pos h

/-- A text or nothing is read again. -/
@[simp] theorem decodeOptionalText?_encodeOptionalText (s : Option String) :
    decodeOptionalText? (encodeOptionalText s) = some s := by
  cases s <;> rfl

/-- The parts of a document are documents of the same kind. -/
theorem parts?_proper {names : List String} {j : Json} {parts : List (Option Json)} (hj : j.Proper)
    (h : parts? names j = some parts) : ∀ i, some i ∈ parts → i.Proper := by
  intro i hi
  cases hj with
  | object hmembers =>
    obtain rfl := Option.some.inj h
    obtain ⟨name, -, hfind⟩ := List.mem_map.mp hi
    exact hmembers _ (Members.mem_of_find? hfind)
  | array hitems =>
    simp only [parts?] at h
    split_ifs at h
    obtain rfl := Option.some.inj h
    rcases List.mem_append.mp hi with hi | hi
    · obtain ⟨i', hi', heq⟩ := List.mem_map.mp hi
      obtain rfl := Option.some.inj heq
      exact hitems _ hi'
    · exact absurd (List.eq_of_mem_replicate hi) (by simp)
  | _ => simp [parts?] at h

/-- A number that comes from a document is finite. -/
theorem isFinite_of_decodeNumber? {j : Json} {x : Float} (hj : j.Proper)
    (h : decodeNumber? j = some x) : Number.isFinite x := by
  cases hj with
  | integer hlow hhigh =>
    obtain rfl := Option.some.inj h
    exact Number.isFinite_ofInt (by omega) hhigh
  | real hfin =>
    obtain rfl := Option.some.inj h
    exact hfin
  | _ => simp [decodeNumber?] at h

/-- So is one that a document may leave out. -/
theorem isFinite_of_part? {part : Option Json} {x : Float} (hpart : ∀ j, part = some j → j.Proper)
    (h : part? decodeNumber? 0.0 part = some x) : Number.isFinite x := by
  cases part with
  | none =>
    obtain rfl := Option.some.inj h
    rfl
  | some j => exact isFinite_of_decodeNumber? (hpart j rfl) h

end parts

/-! ### The four types -/

section types

/-- A stored profile is read again if its sureness is. -/
theorem CompanyProfile.decode?_encode (p : CompanyProfile) :
    Answer.decode? (Answer.encode p) =
      (decodeNumber? (encodeNumber p.confidence)).map (CompanyProfile.mk p.industry p.size) := by
  simp only [Answer.decode?, Answer.encode, parts?, Members.find?, List.map]
  cases h : decodeNumber? (encodeNumber p.confidence) <;> simp [part?, decodeText?, h]

/-- A stored address is read again if its sureness is. -/
theorem EmailSuggestion.decode?_encode (s : EmailSuggestion) :
    Answer.decode? (Answer.encode s) =
      (decodeNumber? (encodeNumber s.confidence)).map (EmailSuggestion.mk s.email) := by
  simp only [Answer.decode?, Answer.encode, parts?, Members.find?, List.map]
  cases h : decodeNumber? (encodeNumber s.confidence) <;> simp [part?, h]

/-- A stored telephone number is read again. -/
theorem PhoneSuggestion.decode?_encode (s : PhoneSuggestion) :
    Answer.decode? (Answer.encode s) = some s := by
  simp [Answer.decode?, Answer.encode, parts?, Members.find?, part?]

/-- A stored score is read again if it is a finite number. -/
theorem LeadScore.decode?_encode (s : LeadScore) :
    Answer.decode? (Answer.encode s) = (decodeNumber? (encodeNumber s.score)).map LeadScore.mk := by
  simp only [Answer.decode?, Answer.encode, parts?, Members.find?, List.map]
  cases h : decodeNumber? (encodeNumber s.score) <;> simp [part?, h]

instance : LawfulAnswer CompanyProfile where
  normalize_normalize _ := rfl
  normalize_fallback := rfl
  decode_encode a b h := by
    rw [CompanyProfile.decode?_encode, Option.map_eq_some_iff] at h
    obtain ⟨x, hx, rfl⟩ := h
    rw [(decodeNumber?_encodeNumber hx).2]
  decode_encode_normalize {j a} hj h := by
    have hfin : Number.isFinite a.confidence := by
      simp only [Answer.decode?] at h
      split at h
      case h_1 _ industry size confidence hparts =>
        simp only [Option.bind_eq_bind, Option.bind_eq_some_iff] at h
        obtain ⟨_, -, _, -, x, hx, ha⟩ := h
        obtain rfl := Option.some.inj ha
        exact isFinite_of_part? (fun i hi => parts?_proper hj hparts i (by simp [hi])) hx
      case h_2 => cases h
    rw [CompanyProfile.decode?_encode]
    simp [Answer.normalize, encodeNumber_of_isFinite hfin, decodeNumber?]

instance : LawfulAnswer EmailSuggestion where
  normalize_normalize _ := rfl
  normalize_fallback := rfl
  decode_encode a b h := by
    rw [EmailSuggestion.decode?_encode, Option.map_eq_some_iff] at h
    obtain ⟨x, hx, rfl⟩ := h
    rw [(decodeNumber?_encodeNumber hx).2]
  decode_encode_normalize {j a} hj h := by
    have hfin : Number.isFinite a.confidence := by
      simp only [Answer.decode?] at h
      split at h
      case h_1 _ email confidence hparts =>
        simp only [Option.bind_eq_bind, Option.bind_eq_some_iff] at h
        obtain ⟨_, -, x, hx, ha⟩ := h
        obtain rfl := Option.some.inj ha
        exact isFinite_of_part? (fun i hi => parts?_proper hj hparts i (by simp [hi])) hx
      case h_2 => cases h
    rw [EmailSuggestion.decode?_encode]
    simp [Answer.normalize, encodeNumber_of_isFinite hfin, decodeNumber?]

instance : LawfulAnswer PhoneSuggestion where
  normalize_normalize _ := rfl
  normalize_fallback := rfl
  decode_encode a b h := by
    rw [PhoneSuggestion.decode?_encode] at h
    exact (Option.some.inj h).symm
  decode_encode_normalize _ _ := PhoneSuggestion.decode?_encode _

instance : LawfulAnswer LeadScore where
  normalize_normalize a := congrArg LeadScore.mk (clampScore_clampScore a.score)
  normalize_fallback := congrArg LeadScore.mk clampScore_zero
  decode_encode a b h := by
    rw [LeadScore.decode?_encode, Option.map_eq_some_iff] at h
    obtain ⟨x, hx, rfl⟩ := h
    rw [(decodeNumber?_encodeNumber hx).2]
  decode_encode_normalize {j a} _ _ := by
    rw [LeadScore.decode?_encode]
    simp [Answer.normalize, encodeNumber_of_isFinite (isFinite_clampScore a.score), decodeNumber?]

end types

end Enrichment

end RecordFormula
