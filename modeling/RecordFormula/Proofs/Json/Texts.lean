import RecordFormula.Json.Reading
import RecordFormula.Proofs.Enrichment.Answers
import RecordFormula.Proofs.Value.NumberTexts
import Std.Data.String.ToInt

/-!
# The text of a document tells the document

The compact text of a document says where it ends, and no other document has it. Texts in quotation
marks end at the first mark that is not escaped; numbers end where a character follows that stands
in no number.

* **A quoted text is read back**, whatever follows it (`Json.quoted?_quote`).
* `Json.Ends` — what follows is not part of a number.
* `Json.Determined` — the text of the document determines it, whatever follows.
* **Every document whose numbers have a spelling is determined** (`Json.determined`).
-/

namespace RecordFormula

namespace Json

/-! ### Quoted texts -/

section quoted

variable {c : Char} {cs rest rest' : List Char} {s t : String}

/-- Two hexadecimal digits tell a control character. -/
theorem hexWord?_hexDigit {n : Nat} (h : n < 32) :
    hexWord? '0' '0' (hexDigit (n / 16)) (hexDigit (n % 16)) = some n := by
  have hall : ∀ n : Fin 32,
      hexWord? '0' '0' (hexDigit (n / 16)) (hexDigit (n % 16)) = some (n : Nat) := by decide
  exact hall ⟨n, h⟩

/-- **An escaped character is read back.** -/
theorem quoted?_escape (c : Char) (cs : List Char) :
    quoted? (escape c ++ cs) = (quoted? cs).map fun p => (c :: p.1, p.2) := by
  have hsimple {d e : Char} (hu : d ≠ 'u') (h : unescape? d = some e) :
      quoted? ('\\' :: d :: cs) = (quoted? cs).map fun p => (e :: p.1, p.2) := by
    rw [quoted?]
    · rw [h]
      cases quoted? cs <;> rfl
    · intro a b c d cs' heq
      exact absurd heq hu
  have hnat {n : Nat} (h : c.toNat = n) : Char.ofNat n = c := by
    rw [← h, Char.ofNat_toNat]
  unfold escape
  split
  · exact hsimple (by decide) rfl
  · exact hsimple (by decide) rfl
  · exact hsimple (by decide) rfl
  · exact hsimple (by decide) rfl
  · exact hsimple (by decide) rfl
  · rename_i hquote hslash _ _ _
    split_ifs with h8 h12 h32
    · exact hsimple (by decide) (congrArg some (hnat h8))
    · exact hsimple (by decide) (congrArg some (hnat h12))
    · simp only [List.cons_append, List.nil_append]
      rw [quoted?, hexWord?_hexDigit h32]
      have hplain : ¬(0xD800 ≤ c.toNat ∧ c.toNat < 0xDC00) ∧
          ¬(0xDC00 ≤ c.toNat ∧ c.toNat < 0xE000) := by omega
      simp only [Option.bind_eq_bind, Option.bind_some, if_neg hplain.1, if_neg hplain.2,
        Char.ofNat_toNat]
      cases quoted? cs <;> rfl
    · simp only [List.cons_append, List.nil_append]
      rw [quoted?]
      · rw [if_neg h32]
        cases quoted? cs <;> rfl
      · exact hquote
      · exact fun _ _ _ _ _ hc _ => hslash hc
      · exact fun _ _ hc _ => hslash hc

/-- Escaped characters are read back up to a mark that is not escaped. -/
theorem quoted?_escaped (cs rest : List Char) :
    quoted? (cs.flatMap escape ++ '"' :: rest) = some (cs, rest) := by
  induction cs with
  | nil => rfl
  | cons c cs ih => rw [List.flatMap_cons, List.append_assoc, quoted?_escape, ih, Option.map_some]

/-- A quoted text starts with a mark, and ends with one. -/
theorem toList_quote (s : String) :
    (quote s).toList = '"' :: (s.toList.flatMap escape ++ ['"']) := by
  simp [quote, String.toList_append]

/-- **A quoted text is read back**, whatever follows it. -/
theorem quoted?_quote (s : String) (rest : List Char) :
    quoted? ((quote s).toList.tail ++ rest) = some (s.toList, rest) := by
  rw [toList_quote, List.tail_cons, List.append_assoc, List.singleton_append, quoted?_escaped]

/-- **A quoted text determines the text**, whatever follows. -/
theorem of_quote_append (h : (quote s).toList ++ rest = (quote t).toList ++ rest') :
    s = t ∧ rest = rest' := by
  have hs := quoted?_quote s rest
  have ht := quoted?_quote t rest'
  rw [toList_quote, List.tail_cons] at hs ht
  rw [toList_quote, toList_quote, List.cons_append, List.cons_append] at h
  rw [(List.cons.inj h).2, ht, Option.some_inj, Prod.mk.injEq] at hs
  exact ⟨String.toList_inj.mp hs.1.symm, hs.2.symm⟩

end quoted

/-! ### Runs -/

/-- Characters of one kind end where one of another kind follows. -/
theorem of_run_append {p : Char → Bool} {as bs rest rest' : List Char} (has : ∀ c ∈ as, p c = true)
    (hbs : ∀ c ∈ bs, p c = true) (hrest : ∀ c, rest.head? = some c → p c = false)
    (hrest' : ∀ c, rest'.head? = some c → p c = false) (h : as ++ rest = bs ++ rest') :
    as = bs ∧ rest = rest' := by
  have hrun {cs rest : List Char} (hcs : ∀ c ∈ cs, p c = true)
      (hrest : ∀ c, rest.head? = some c → p c = false) : (cs ++ rest).takeWhile p = cs := by
    rw [List.takeWhile_append_of_pos hcs]
    cases rest with
    | nil => simp
    | cons c rest => simp [hrest c rfl]
  obtain rfl : as = bs := by rw [← hrun has hrest, h, hrun hbs hrest']
  exact ⟨rfl, List.append_cancel_left h⟩

/-! ### Numbers -/

section numbers

open Decimal (isSpelling isSpelling_of_isDigit)

variable {x y : Float} {n m : Int}

/-- What follows is not part of a number. -/
def Ends (rest : List Char) : Prop := ∀ c, rest.head? = some c → isSpelling c = false

/-- A whole number is written in digits, perhaps with a minus sign. -/
theorem of_mem_integer {c : Char} (h : c ∈ (toString n).toList) :
    c = '-' ∨ Decimal.isDigit c = true := by
  obtain ⟨ds, htext, -, hdigit, -⟩ := Decimal.exists_digits_int n
  rw [htext] at h
  split_ifs at h
  · rcases List.mem_cons.mp h with rfl | h
    · exact .inl rfl
    · exact .inr (hdigit c h)
  · exact .inr (hdigit c h)

/-- Its characters stand in numbers. -/
theorem isSpelling_integer : ∀ c ∈ (toString n).toList, isSpelling c = true := by
  intro c hc
  rcases of_mem_integer hc with rfl | hc
  · rfl
  · exact isSpelling_of_isDigit hc

/-- So do those of a finite number. -/
theorem isSpelling_real (hfin : Number.isFinite x) :
    ∀ c ∈ (numberStyle.write x).toList, isSpelling c = true := fun _ hc =>
  Decimal.isSpelling_of_read? (Decimal.read?_write numberStyle hfin) hc

/-- A finite number is written with a point or an exponent. -/
theorem mark_mem_real (hfin : Number.isFinite x) :
    '.' ∈ (numberStyle.write x).toList ∨ 'e' ∈ (numberStyle.write x).toList := by
  have hplain (d : Decimal) : '.' ∈ (Decimal.writePlain true d).toList := by
    simp only [Decimal.writePlain]
    split_ifs <;> simp [String.toList_append]
  have hscientific (d : Decimal) : 'e' ∈ (Decimal.writeScientific true d).toList := by
    simp [Decimal.writeScientific, String.toList_append]
  have hsize : '.' ∈ (numberStyle.writeSize x).toList ∨ 'e' ∈ (numberStyle.writeSize x).toList := by
    simp only [Decimal.Style.writeSize]
    split_ifs
    · exact .inl (hplain _)
    · exact .inl (hplain _)
    · exact .inr (hscientific _)
  rw [Decimal.Style.write, Number.isNaN_of_isFinite hfin, hfin, if_neg (by simp), if_pos rfl,
    String.toList_append]
  exact hsize.imp (List.mem_append_right _) (List.mem_append_right _)

/-- **A whole number is not written as a finite number is.** -/
theorem integer_ne_real (hfin : Number.isFinite x) :
    (toString n).toList ≠ (numberStyle.write x).toList := by
  intro h
  rcases mark_mem_real hfin with hmem | hmem <;> rw [← h] at hmem <;>
    rcases of_mem_integer hmem with heq | heq <;> exact absurd heq (by decide)

/-- **The text of a whole number determines it.** -/
theorem integer_inj (h : (toString n).toList = (toString m).toList) : n = m :=
  Int.repr_inj.mp (String.toList_inj.mp h)

/-- **The text of a finite number determines it**, its sign included. -/
theorem real_inj (hx : Number.isFinite x) (hy : Number.isFinite y)
    (h : (numberStyle.write x).toList = (numberStyle.write y).toList) : x = y := by
  have hread := Decimal.read?_write numberStyle hx
  rw [h, Decimal.read?_write numberStyle hy] at hread
  exact (Option.some.inj hread).symm

end numbers

/-! ### Lists -/

section lists

open Decimal (isSpelling)

variable {α : Type} {text : α → List Char} {as bs : List α} {a : α} {close : Char}
  {rest rest' : List Char}

/-- Elements one after the other, with commas between them. -/
def separated (text : α → List Char) : List α → List Char
  | [] => []
  | a :: rest => text a ++ rest.flatMap fun b => ',' :: text b

/-- These are the texts of the elements put together. -/
theorem toList_intercalate (f : α → String) (as : List α) :
    (String.intercalate "," (as.map f)).toList = separated (fun a => (f a).toList) as := by
  cases as with
  | nil => rfl
  | cons a as =>
    rw [separated]
    induction as generalizing a with
    | nil => simp
    | cons b as ih =>
      rw [List.map_cons, List.map_cons, String.intercalate_cons_cons, String.toList_append,
        String.toList_append, ← List.map_cons, ih b]
      simp

/-- Do the texts of the elements of two lists determine the elements, before something that is not
part of a number? -/
def Determining (text : α → List Char) (as bs : List α) : Prop :=
  ∀ a ∈ as, ∀ b ∈ bs, ∀ rest rest', Ends rest → Ends rest' → text a ++ rest = text b ++ rest' →
    a = b ∧ rest = rest'

/-- Elements behind commas up to a closing mark determine the list. -/
theorem of_behind_append (hclose : isSpelling close = false) (hcomma : close ≠ ',')
    (h : Determining text as bs)
    (heq : (as.flatMap fun a => ',' :: text a) ++ close :: rest =
      (bs.flatMap fun b => ',' :: text b) ++ close :: rest') :
    as = bs ∧ rest = rest' := by
  -- behind an element there is a comma or the closing mark
  have hends : ∀ (cs : List α) (rest : List Char),
      Ends ((cs.flatMap fun c => ',' :: text c) ++ close :: rest) := by
    intro cs rest d hd
    cases cs with
    | nil =>
      obtain rfl := Option.some.inj hd
      exact hclose
    | cons c cs =>
      obtain rfl := Option.some.inj hd
      rfl
  induction as generalizing bs with
  | nil =>
    cases bs with
    | nil => exact ⟨rfl, (List.cons.inj heq).2⟩
    | cons b bs => exact absurd (List.cons.inj heq).1 hcomma
  | cons a as ih =>
    cases bs with
    | nil => exact absurd (List.cons.inj heq).1.symm hcomma
    | cons b bs =>
      simp only [List.flatMap_cons, List.cons_append, List.append_assoc] at heq
      obtain ⟨rfl, hbehind⟩ := h a (by simp) b (by simp) _ _ (hends as rest) (hends bs rest')
        (List.cons.inj heq).2
      obtain ⟨rfl, hrest⟩ := ih (fun a ha b hb => h a (.tail _ ha) b (.tail _ hb)) hbehind
      exact ⟨rfl, hrest⟩

/-- **A list of elements up to a closing mark determines the list**, if no element starts with the
mark. -/
theorem of_separated_append (hclose : isSpelling close = false) (hcomma : close ≠ ',')
    (hstart : ∀ a ∈ as ++ bs, ∀ rest, (text a ++ rest).head? ≠ some close)
    (h : Determining text as bs)
    (heq : separated text as ++ close :: rest = separated text bs ++ close :: rest') :
    as = bs ∧ rest = rest' := by
  cases as with
  | nil =>
    cases bs with
    | nil => exact ⟨rfl, (List.cons.inj heq).2⟩
    | cons b bs =>
      rw [separated, separated, List.append_assoc] at heq
      exact absurd (congrArg List.head? heq).symm (hstart b (by simp) _)
  | cons a as =>
    cases bs with
    | nil =>
      rw [separated, separated, List.append_assoc] at heq
      exact absurd (congrArg List.head? heq) (hstart a (by simp) _)
    | cons b bs =>
      -- the first elements are determined like all others, behind a comma
      refine of_behind_append hclose hcomma h ?_
      simp only [separated, List.append_assoc] at heq
      simp only [List.flatMap_cons, List.cons_append, List.append_assoc, heq]

end lists

/-! ### Documents -/

section documents

open Decimal (isSpelling)

variable {j j' : Json} {rest rest' : List Char}

/-- Does the text of the document determine it, before something that is not part of a number? -/
def Determined (j : Json) : Prop :=
  ∀ j' rest rest', j'.Proper → Ends rest → Ends rest' →
    j.compact.toList ++ rest = j'.compact.toList ++ rest' → j = j' ∧ rest = rest'

/-- The mark that a document other than a number starts with. -/
def opener? : Json → Option Char
  | .null => some 'n'
  | .boolean true => some 't'
  | .boolean false => some 'f'
  | .integer _ => none
  | .real _ => none
  | .text _ => some '"'
  | .array _ => some '['
  | .object _ => some '\x7b'

/-- The texts of the elements of an array. -/
theorem compactItems_eq (items : List Json) : compactItems items = items.map compact := by
  induction items with
  | nil => rfl
  | cons j rest ih => rw [compactItems, ih, List.map_cons]

/-- The text of a member of an object. -/
def memberText (p : String × Json) : List Char :=
  (quote p.1).toList ++ ':' :: p.2.compact.toList

/-- The texts of the members of an object. -/
theorem compactMembers_eq (members : List (String × Json)) :
    compactMembers members = members.map fun p => quote p.1 ++ ":" ++ p.2.compact := by
  induction members with
  | nil => rfl
  | cons p rest ih =>
    obtain ⟨k, j⟩ := p
    rw [compactMembers, ih, List.map_cons]

/-- The text of an array. -/
theorem toList_compact_array (items : List Json) :
    (compact (.array items)).toList =
      '[' :: (separated (fun j => j.compact.toList) items ++ [']']) := by
  rw [compact, compactItems_eq, String.toList_append, String.toList_append, toList_intercalate]
  rfl

/-- The text of an object. -/
theorem toList_compact_object (members : List (String × Json)) :
    (compact (.object members)).toList =
      '\x7b' :: (separated memberText members ++ ['\x7d']) := by
  have htext :
      (fun p : String × Json => (quote p.1 ++ ":" ++ p.2.compact).toList) = memberText := by
    funext p
    simp [memberText, String.toList_append]
  rw [compact, compactMembers_eq, String.toList_append, String.toList_append, toList_intercalate,
    htext]
  rfl

/-- **A document starts with its mark**, or it is a number and starts as numbers do. -/
theorem exists_compact_cons (h : j.Proper) :
    ∃ c cs, j.compact.toList = c :: cs ∧ j.opener? = if isSpelling c then none else some c := by
  have hnumber {cs : List Char} (hne : cs ≠ []) (hcs : ∀ c ∈ cs, isSpelling c = true) :
      ∃ c rest, cs = c :: rest ∧ none = if isSpelling c then none else some c := by
    obtain ⟨c, rest, rfl⟩ := List.exists_cons_of_ne_nil hne
    exact ⟨c, rest, rfl, (if_pos (hcs c (by simp))).symm⟩
  cases h with
  | null => exact ⟨'n', _, rfl, rfl⟩
  | boolean b => cases b <;> exact ⟨_, _, rfl, rfl⟩
  | @integer n =>
    refine hnumber ?_ isSpelling_integer
    obtain ⟨ds, htext, hne, -⟩ := Decimal.exists_digits_int n
    rw [compact, htext]
    split_ifs
    · simp
    · exact hne
  | @real x hfin =>
    refine hnumber ?_ (isSpelling_real hfin)
    intro hnil
    rw [compact] at hnil
    rcases mark_mem_real hfin with hmem | hmem <;> rw [hnil] at hmem <;> cases hmem
  | text s => exact ⟨'"', _, toList_quote s, rfl⟩
  | array => exact ⟨'[', _, toList_compact_array _, rfl⟩
  | object => exact ⟨'\x7b', _, toList_compact_object _, rfl⟩

/-- Documents of the same text start with the same mark. -/
theorem opener?_eq (hj : j.Proper) (hj' : j'.Proper)
    (h : j.compact.toList ++ rest = j'.compact.toList ++ rest') : j.opener? = j'.opener? := by
  obtain ⟨c, cs, htext, hopener⟩ := exists_compact_cons hj
  obtain ⟨c', cs', htext', hopener'⟩ := exists_compact_cons hj'
  rw [htext, htext'] at h
  rw [hopener, hopener', (List.cons.inj h).1]

/-- No document starts with a mark that opens none. -/
theorem head?_compact_ne (hj : j.Proper) {c : Char} (hc : isSpelling c = false)
    (hopener : j.opener? ≠ some c) (rest : List Char) :
    (j.compact.toList ++ rest).head? ≠ some c := by
  obtain ⟨d, cs, htext, heq⟩ := exists_compact_cons hj
  rw [htext]
  intro hd
  obtain rfl := Option.some.inj hd
  rw [heq, if_neg (by simp [hc])] at hopener
  exact hopener rfl

/-- **The text of an array determines it**, if those of its elements do. -/
theorem determined_array {items : List Json} (hj : (array items).Proper)
    (ih : ∀ j ∈ items, j.Determined) : (array items).Determined := by
  intro j' rest rest' hj' hrest hrest' heq
  have hopener := opener?_eq hj hj' heq
  cases hj with | array hitems =>
  cases hj' with
  | @array items' hitems' =>
    rw [toList_compact_array, toList_compact_array] at heq
    simp only [List.cons_append, List.append_assoc, List.nil_append] at heq
    have hstart : ∀ j ∈ items ++ items', ∀ rest,
        (j.compact.toList ++ rest).head? ≠ some ']' := by
      intro j hj rest
      have hproper : j.Proper := (List.mem_append.mp hj).elim (hitems j) (hitems' j)
      refine head?_compact_ne hproper rfl ?_ rest
      cases hproper with
      | boolean b => cases b <;> simp [opener?]
      | _ => simp [opener?]
    obtain ⟨rfl, hrest⟩ := of_separated_append rfl (by decide) hstart
      (fun j hj j' hj' rest rest' => ih j hj j' rest rest' (hitems' j' hj')) (List.cons.inj heq).2
    exact ⟨rfl, hrest⟩
  | boolean b => cases b <;> cases hopener
  | _ => cases hopener

/-- **The text of an object determines it**, if those of its members do. -/
theorem determined_object {members : List (String × Json)} (hj : (object members).Proper)
    (ih : ∀ p ∈ members, p.2.Determined) : (object members).Determined := by
  intro j' rest rest' hj' hrest hrest' heq
  have hopener := opener?_eq hj hj' heq
  cases hj' with
  | @object members' hmembers' =>
    rw [toList_compact_object, toList_compact_object] at heq
    simp only [List.cons_append, List.append_assoc, List.nil_append] at heq
    have hstart : ∀ p ∈ members ++ members', ∀ rest,
        (memberText p ++ rest).head? ≠ some '\x7d' := by
      intro p _ rest
      rw [memberText, toList_quote]
      simp
    have hdetermining : Determining memberText members members' := by
      rintro ⟨k, j⟩ hj ⟨k', j'⟩ hj' rest rest' hrest hrest' heq
      simp only [memberText, List.append_assoc] at heq
      obtain ⟨rfl, hbehind⟩ := of_quote_append heq
      obtain ⟨rfl, hrest⟩ := ih (k, j) hj j' rest rest' (hmembers' (k, j') hj') hrest hrest'
        (List.cons.inj hbehind).2
      exact ⟨rfl, hrest⟩
    obtain ⟨rfl, hrest⟩ := of_separated_append rfl (by decide) hstart hdetermining
      (List.cons.inj heq).2
    exact ⟨rfl, hrest⟩
  | boolean b => cases b <;> cases hopener
  | _ => cases hopener

/-- **The text of a document determines it**, whatever follows that is not part of a number. -/
theorem determined (hj : j.Proper) : j.Determined := by
  induction hj with
  | array h ih => exact determined_array (.array h) ih
  | object h ih => exact determined_object (.object h) ih
  | null =>
    intro j' rest rest' hj' _ _ heq
    have hopener := opener?_eq .null hj' heq
    cases hj' with
    | null => exact ⟨rfl, List.append_cancel_left heq⟩
    | boolean b => cases b <;> cases hopener
    | _ => cases hopener
  | boolean b =>
    intro j' rest rest' hj' _ _ heq
    have hopener := opener?_eq (.boolean b) hj' heq
    cases hj' with
    | boolean b' =>
      have hb : b = b' := by cases b <;> cases b' <;> first | rfl | cases hopener
      subst hb
      exact ⟨rfl, List.append_cancel_left heq⟩
    | _ => cases b <;> cases hopener
  | @integer n hlow hhigh =>
    intro j' rest rest' hj' hrest hrest' heq
    have hopener := opener?_eq (.integer hlow hhigh) hj' heq
    cases hj' with
    | integer =>
      obtain ⟨htext, hrest⟩ := of_run_append isSpelling_integer isSpelling_integer hrest hrest'
        heq
      exact ⟨congrArg integer (integer_inj htext), hrest⟩
    | real hfin =>
      have htext := of_run_append isSpelling_integer (isSpelling_real hfin) hrest hrest' heq
      exact absurd htext.1 (integer_ne_real hfin)
    | boolean b => cases b <;> cases hopener
    | _ => cases hopener
  | @real x hfin =>
    intro j' rest rest' hj' hrest hrest' heq
    have hopener := opener?_eq (.real hfin) hj' heq
    cases hj' with
    | integer =>
      have htext := of_run_append (isSpelling_real hfin) isSpelling_integer hrest hrest' heq
      exact absurd htext.1.symm (integer_ne_real hfin)
    | real hfin' =>
      obtain ⟨htext, hrest⟩ := of_run_append (isSpelling_real hfin) (isSpelling_real hfin')
        hrest hrest' heq
      exact ⟨congrArg real (real_inj hfin hfin' htext), hrest⟩
    | boolean b => cases b <;> cases hopener
    | _ => cases hopener
  | text s =>
    intro j' rest rest' hj' _ _ heq
    have hopener := opener?_eq (.text s) hj' heq
    cases hj' with
    | text t =>
      obtain ⟨rfl, hrest⟩ := of_quote_append heq
      exact ⟨rfl, hrest⟩
    | boolean b => cases b <;> cases hopener
    | _ => cases hopener

/-- **Documents of the same text are the same.** -/
theorem compact_inj (hj : j.Proper) (hj' : j'.Proper) (h : j.compact = j'.compact) : j = j' := by
  have hends : Ends [] := by
    intro c hc
    cases hc
  exact (determined hj j' [] [] hj' hends hends (by rw [h])).1

end documents

end Json

end RecordFormula
