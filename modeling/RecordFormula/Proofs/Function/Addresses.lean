import Mathlib
import RecordFormula.Function.Leads
import RecordFormula.Proofs.Pattern.Extents
import RecordFormula.Proofs.Pattern.Programs

/-!
# Mail addresses

What the pattern of mail addresses matches.

* `Leads.mailNode` — what the pattern means; **it is small enough to be searched for**
  (`Leads.mailMatcher?_eq`).
* `Leads.IsAddress` — what a mail address is: it has no blanks and one at sign, which is not its first
  character; behind it is the domain, which has a dot, but not as its first or its last character.
* **The pattern matches mail addresses and nothing else, and its group is the domain**
  (`Leads.mailDomain?_eq_some_iff`).
* So the domain of a mail address is what is extracted (`Leads.extractDomain_address`).
-/

namespace RecordFormula

namespace Leads

open Pattern (Node Spot Over Place)

/-! ### The pattern -/

/-- The characters that may stand on either side of the at sign. -/
def partSet : CharSet := (CharSet.unionAll [.whiteSpace, .singleton '@']).complement

/-- The characters that may stand before and behind the dot that a domain needs. -/
def labelSet : CharSet :=
  (CharSet.unionAll [.whiteSpace, .singleton '@', .singleton '.']).complement

/-- The domain of a mail address. -/
def domainNode : Node :=
  .sequence (.set labelSet) (.sequence (.repeated 0 none true (.set partSet))
    (.sequence (.text ['.']) (.repeated 1 none true (.set labelSet))))

/-- A mail address, of which the domain is kept. -/
def mailNode : Node :=
  .sequence (.anchor .textStart) (.sequence (.repeated 1 none true (.set partSet))
    (.sequence (.text ['@']) (.sequence (.capture 1 domainNode) (.anchor .textEnd))))

set_option maxRecDepth 10000 in
/-- The pattern of mail addresses means this node. -/
theorem meaning_mailPattern :
    ((Pattern.ofChars? mailPattern.toList).bind fun p =>
      (Pattern.meaning? Pattern.Mode.initial p).map fun m => (m.1, Pattern.namedGroups p)) =
      some (mailNode, []) := by
  cbv

set_option maxRecDepth 10000 in
/-- The sets of the pattern have few ranges. -/
theorem length_ranges : partSet.ranges.length = 13 ∧ labelSet.ranges.length = 14 := by
  constructor <;> cbv

set_option maxRecDepth 10000 in
/-- Their members are spelled by few sequences of bytes. -/
theorem length_byteSequences :
    partSet.byteSequences.length = 26 ∧ labelSet.byteSequences.length = 27 := by
  constructor <;> cbv

section fits

open Pattern.Extent (Within setBound)

/-- A character of one of the sets needs little room. -/
theorem within_sets (backward : Bool) : Within ((Node.set partSet).extent? backward) 8000 ∧
    Within ((Node.set labelSet).extent? backward) 8100 := by
  have hpart : setBound partSet = 7760 := by
    simp [setBound, length_ranges, length_byteSequences, Pattern.Extent.perRange]
  have hlabel : setBound labelSet = 8060 := by
    simp [setBound, length_ranges, length_byteSequences, Pattern.Extent.perRange]
  exact ⟨(Pattern.Extent.within_set? backward partSet).mono (by omega),
    (Pattern.Extent.within_set? backward labelSet).mono (by omega)⟩

/-- **The pattern is small enough.** -/
theorem fits_mailNode : mailNode.fits := by
  refine Node.fits_of_within (fun backward => ?_) (by decide : 40000 + 208 ≤ Pattern.Extent.limit)
  obtain ⟨hpart, hlabel⟩ := within_sets backward
  have hdomain := Node.within_sequence hlabel (Node.within_sequence (Node.within_repeated 0 true hpart)
    (Node.within_sequence (Node.within_text ['.']) (Node.within_repeated 1 true hlabel)))
  have hmail := Node.within_sequence (Node.within_anchor .textStart)
    (Node.within_sequence (Node.within_repeated 1 true hpart)
      (Node.within_sequence (Node.within_text ['@'])
        (Node.within_sequence (Node.within_capture 1 hdomain) (Node.within_anchor .textEnd))))
  exact hmail.mono (by decide)

end fits

/-- **What is searched for** is this node. -/
theorem mailMatcher?_eq : mailMatcher? = some ⟨.program mailNode.program, []⟩ := by
  obtain ⟨p, hp, hmeaning⟩ := Option.bind_eq_some_iff.mp meaning_mailPattern
  obtain ⟨m, hm, hnode⟩ := Option.map_eq_some_iff.mp hmeaning
  obtain ⟨hnode, hnames⟩ := Prod.mk.inj hnode
  have hsearcher : m.1.searcher? = some (.program mailNode.program) := by
    unfold Node.searcher?
    rw [hnode, if_pos fits_mailNode]
    rfl
  rw [mailMatcher?, hp, Option.bind_some, Pattern.Matcher.ofPattern?, hm]
  simp [hsearcher, hnames]

/-! ### The characters of the sets -/

variable {c : Char} {cs domain : List Char}

/-- Neither a blank nor an at sign may stand on either side of the at sign. -/
theorem contains_partSet : partSet.contains c ↔ isBlank c = false ∧ c ≠ '@' := by
  have hsets : ∀ s ∈ [CharSet.whiteSpace, .singleton '@'], CharSet.Ascending s.ranges := by
    simp [CharSet.ascending_whiteSpace, CharSet.ascending_singleton]
  rw [partSet, CharSet.contains_complement (CharSet.ascending_unionAll hsets),
    CharSet.contains_unionAll hsets]
  simp [CharSet.contains_whiteSpace, CharSet.contains_singleton]

/-- Nor may a dot stand at the ends of a domain. -/
theorem contains_labelSet : labelSet.contains c ↔ (isBlank c = false ∧ c ≠ '@') ∧ c ≠ '.' := by
  have hsets : ∀ s ∈ [CharSet.whiteSpace, .singleton '@', .singleton '.'],
      CharSet.Ascending s.ranges := by
    simp [CharSet.ascending_whiteSpace, CharSet.ascending_singleton]
  rw [labelSet, CharSet.contains_complement (CharSet.ascending_unionAll hsets),
    CharSet.contains_unionAll hsets]
  simp [CharSet.contains_whiteSpace, CharSet.contains_singleton, and_assoc]

/-! ### Domains -/

/-- The characters that the pattern of a domain matches. -/
def IsDomain (cs : List Char) : Prop :=
  ∃ c before label, cs = c :: before ++ '.' :: label ∧ labelSet.contains c ∧
    (∀ d ∈ before, partSet.contains d) ∧ label ≠ [] ∧ ∀ d ∈ label, labelSet.contains d

/-- **A domain** has a dot, but not as its first or its last character. The dot that the pattern asks
for may be the last one. -/
theorem isDomain_iff (h : ∀ c ∈ cs, partSet.contains c) :
    IsDomain cs ↔ '.' ∈ cs ∧ cs.head? ≠ some '.' ∧ cs.getLast? ≠ some '.' := by
  constructor
  · rintro ⟨c, before, label, rfl, hc, -, hne, hlabel⟩
    have hlast : label.getLast hne ≠ '.' :=
      (contains_labelSet.mp (hlabel _ (List.getLast_mem hne))).2
    refine ⟨by simp, ?_, ?_⟩
    · simpa using (contains_labelSet.mp hc).2
    · rw [List.getLast?_append_of_ne_nil _ (List.cons_ne_nil _ _),
        List.getLast?_cons_of_ne_nil hne, List.getLast?_eq_some_getLast hne]
      simpa using hlast
  · rintro ⟨hdot, hhead, hlast⟩
    have hlabel : ∀ d ∈ cs, d ≠ '.' → labelSet.contains d := fun d hd hne =>
      contains_labelSet.mpr ⟨contains_partSet.mp (h d hd), hne⟩
    -- the last dot is the first one backwards
    obtain ⟨label, before, hreverse, hnone⟩ :=
      List.eq_append_cons_of_mem (List.mem_reverse.mpr hdot)
    obtain rfl : cs = before.reverse ++ '.' :: label.reverse := by
      rw [← List.reverse_reverse cs, hreverse]
      simp
    obtain ⟨c, before', hbefore⟩ : ∃ c before', before.reverse = c :: before' := by
      refine List.exists_cons_of_ne_nil fun hnil => hhead ?_
      rw [hnil]
      rfl
    have hne : label.reverse ≠ [] := by
      intro hnil
      apply hlast
      rw [hnil]
      simp
    rw [hbefore] at hhead hlabel h ⊢
    refine ⟨c, before', label.reverse, rfl, ?_, ?_, hne, ?_⟩
    · exact hlabel c (by simp) fun hc => hhead (by simp [hc])
    · intro d hd
      exact h d (by simp [hd])
    · intro d hd
      refine hlabel d (by simp [List.mem_reverse.mp hd]) ?_
      rintro rfl
      exact hnone (List.mem_reverse.mp hd)

/-- The pattern of a domain matches the domains. -/
theorem matches_domainNode_iff {text : Array Char} {a b : Spot} :
    domainNode.Matches text a b ↔ ∃ cs, IsDomain cs ∧ Over text a cs b := by
  constructor
  · rintro ⟨x, hx, y, hy, z, hz, hb⟩
    obtain ⟨c, hc, hx⟩ := Pattern.matches_set_iff.mp hx
    obtain ⟨before, -, hbefore, hy⟩ := Pattern.matches_repeated_set_iff.mp hy
    obtain ⟨label, hlength, hlabel, hb⟩ := Pattern.matches_repeated_set_iff.mp hb
    have hz := Pattern.matches_text_iff.mp hz
    refine ⟨[c] ++ (before ++ (['.'] ++ label)), ⟨c, before, label, ?_, hc, hbefore, ?_, hlabel⟩, ?_⟩
    · simp
    · exact List.ne_nil_of_length_pos hlength
    · exact Pattern.over_append.mpr ⟨x, hx, Pattern.over_append.mpr ⟨y, hy,
        Pattern.over_append.mpr ⟨z, hz, hb⟩⟩⟩
  · rintro ⟨_, ⟨c, before, label, rfl, hc, hbefore, hne, hlabel⟩, hover⟩
    have hcs : c :: before ++ '.' :: label = [c] ++ (before ++ (['.'] ++ label)) := by simp
    rw [hcs] at hover
    obtain ⟨x, hx, hover⟩ := Pattern.over_append.mp hover
    obtain ⟨y, hy, hover⟩ := Pattern.over_append.mp hover
    obtain ⟨z, hz, hb⟩ := Pattern.over_append.mp hover
    refine ⟨x, Pattern.matches_set_iff.mpr ⟨c, hc, hx⟩, y, ?_, z, ?_, ?_⟩
    · exact Pattern.matches_repeated_set_iff.mpr ⟨before, Nat.zero_le _, hbefore, hy⟩
    · exact Pattern.matches_text_iff.mpr hz
    · exact Pattern.matches_repeated_set_iff.mpr ⟨label, List.length_pos_of_ne_nil hne, hlabel, hb⟩

/-! ### Addresses -/

/-- A place in a text with no character before it is the start. -/
theorem eq_zero_of_before {s : Nat} (h : Pattern.before cs.toArray s = none) (hs : s ≤ cs.length) :
    s = 0 := by
  by_contra hne
  rw [Pattern.before, if_neg hne, List.getElem?_toArray, List.getElem?_eq_none_iff] at h
  omega

/-- The pattern matches a whole text or nothing of it: a name, an at sign and a domain, of which the
two ends are kept. -/
theorem matches_mailNode_iff {s : Nat} {b : Spot} :
    mailNode.Matches cs.toArray ⟨s, []⟩ b ↔ s = 0 ∧ ∃ name domain, cs = name ++ '@' :: domain ∧
      name ≠ [] ∧ (∀ c ∈ name, partSet.contains c) ∧ IsDomain domain ∧
      b = ⟨cs.length, [(3, cs.length), (2, name.length + 1)]⟩ := by
  constructor
  · rintro ⟨_, ⟨hstart, rfl⟩, x, hx, y, hy, _, ⟨z, hz, rfl⟩, hend, rfl⟩
    obtain ⟨name, hlength, hname, hover, rfl⟩ := Pattern.matches_repeated_set_iff.mp hx
    obtain ⟨hat, rfl⟩ := Pattern.matches_text_iff.mp hy
    obtain ⟨domain, hdomain, hkept, rfl⟩ := matches_domainNode_iff.mp hz
    have hne : name ≠ [] := List.ne_nil_of_length_pos hlength
    simp only [Spot.forward, Spot.keep, Place.holds, List.getElem?_toArray, Option.isNone_iff_eq_none,
      List.length_singleton] at hstart hend hover hat hkept ⊢
    have hs : s < cs.length := by
      by_contra hle
      rw [List.drop_eq_nil_of_le (Nat.le_of_not_lt hle)] at hover
      exact hne (List.append_eq_nil_iff.mp hover.symm).1
    obtain rfl := eq_zero_of_before hstart hs.le
    have hrest : cs.drop (0 + name.length + 1 + domain.length) = [] :=
      List.drop_eq_nil_of_le (List.getElem?_eq_none_iff.mp hend)
    have hcs : cs = name ++ '@' :: domain := by
      rw [hkept, hrest, List.append_nil] at hat
      rwa [hat] at hover
    have hsize : cs.length = 0 + name.length + 1 + domain.length := by
      rw [hcs, List.length_append, List.length_cons]
      omega
    refine ⟨rfl, name, domain, hcs, hne, hname, hdomain, ?_⟩
    rw [hsize]
    simp
  · rintro ⟨rfl, name, domain, hcs, hne, hname, hdomain, rfl⟩
    have hwhole : Over cs.toArray ⟨0, []⟩ (name ++ (['@'] ++ domain)) ⟨cs.length, []⟩ := by
      refine ⟨?_, ?_⟩
      · simp [hcs]
      · simp [hcs, Spot.forward]
    obtain ⟨x, hx, hrest⟩ := Pattern.over_append.mp hwhole
    obtain ⟨y, hy, hz⟩ := Pattern.over_append.mp hrest
    have hdomain' := hz.of_place (y.keep 2) rfl
    have hspot : y = ⟨name.length + 1, []⟩ := by
      obtain ⟨-, rfl⟩ := hx
      obtain ⟨-, rfl⟩ := hy
      simp [Spot.forward]
    have hlength : cs.length = name.length + 1 + domain.length := by
      rw [hcs, List.length_append, List.length_cons]
      omega
    refine ⟨⟨0, []⟩, ⟨rfl, rfl⟩, x, ?_, y, Pattern.matches_text_iff.mpr hy, _,
      ⟨_, matches_domainNode_iff.mpr ⟨domain, hdomain, hdomain'⟩, rfl⟩, ?_, ?_⟩
    · exact Pattern.matches_repeated_set_iff.mpr ⟨name, List.length_pos_of_ne_nil hne, hname, hx⟩
    · simp [Place.holds, Spot.keep, Spot.forward, hspot, hlength]
    · simp [Spot.keep, Spot.forward, hspot, hlength]

/-! ### Domains of addresses -/

/-- A mail address and its domain. -/
structure IsAddress (cs domain : List Char) : Prop where
  /-- There are no blanks. -/
  not_blank : ∀ c ∈ cs, isBlank c = false
  /-- There is one at sign. -/
  count_eq : cs.count '@' = 1
  /-- The domain follows it, and something stands before it. -/
  parts : ∃ name, name ≠ [] ∧ cs = name ++ '@' :: domain
  /-- The domain has a dot. -/
  dot_mem : '.' ∈ domain
  /-- It does not start with a dot. -/
  head?_ne : domain.head? ≠ some '.'
  /-- It does not end with a dot. -/
  getLast?_ne : domain.getLast? ≠ some '.'

/-- There is no other at sign before it or behind it. -/
theorem IsAddress.exists_name (h : IsAddress cs domain) :
    ∃ name, name ≠ [] ∧ cs = name ++ '@' :: domain ∧ '@' ∉ name ∧ '@' ∉ domain := by
  obtain ⟨name, hne, hcs⟩ := h.parts
  have hcount := h.count_eq
  rw [hcs, List.count_append, List.count_cons_self] at hcount
  exact ⟨name, hne, hcs, List.count_eq_zero.mp (by omega), List.count_eq_zero.mp (by omega)⟩

/-- What follows the only at sign is one domain. -/
theorem IsAddress.unique {domain' : List Char} (h : IsAddress cs domain)
    (h' : IsAddress cs domain') : domain = domain' := by
  obtain ⟨name, -, hcs, hname, hdomain⟩ := h.exists_name
  obtain ⟨name', -, hcs'⟩ := h'.parts
  exact ((List.append_cons_inj_of_notMem hname hdomain).mp (hcs.symm.trans hcs')).2.2

/-- A domain has no at sign and no blanks. -/
theorem IsDomain.contains (h : IsDomain cs) : ∀ c ∈ cs, partSet.contains c := by
  obtain ⟨d, before, label, rfl, hd, hbefore, -, hlabel⟩ := h
  have hpart : ∀ c, labelSet.contains c → partSet.contains c := fun c hc =>
    contains_partSet.mpr (contains_labelSet.mp hc).1
  intro c hc
  rcases List.mem_append.mp hc with hc | hc
  · rcases List.mem_cons.mp hc with rfl | hc
    · exact hpart _ hd
    · exact hbefore c hc
  · rcases List.mem_cons.mp hc with rfl | hc
    · exact contains_partSet.mpr (by decide)
    · exact hpart _ (hlabel c hc)

/-- **Mail addresses are what the pattern matches.** -/
theorem isAddress_iff : IsAddress cs domain ↔ ∃ name, cs = name ++ '@' :: domain ∧ name ≠ [] ∧
    (∀ c ∈ name, partSet.contains c) ∧ IsDomain domain := by
  constructor
  · intro h
    obtain ⟨name, hne, rfl, hname, hdomain⟩ := h.exists_name
    have hpart : ∀ c ∈ name ++ '@' :: domain, c ≠ '@' → partSet.contains c := fun c hc hat =>
      contains_partSet.mpr ⟨h.not_blank c hc, hat⟩
    refine ⟨name, rfl, hne, fun c hc => ?_, (isDomain_iff fun c hc => ?_).mpr
      ⟨h.dot_mem, h.head?_ne, h.getLast?_ne⟩⟩
    · exact hpart c (by simp [hc]) (ne_of_mem_of_not_mem hc hname)
    · exact hpart c (by simp [hc]) (ne_of_mem_of_not_mem hc hdomain)
  · rintro ⟨name, rfl, hne, hname, hdomain⟩
    have hcontains := hdomain.contains
    obtain ⟨hdot, hhead, hlast⟩ := (isDomain_iff hcontains).mp hdomain
    have hnone : ∀ {l : List Char}, (∀ c ∈ l, partSet.contains c) → l.count '@' = 0 := by
      intro l hl
      exact List.count_eq_zero.mpr fun hat => (contains_partSet.mp (hl _ hat)).2 rfl
    refine ⟨fun c hc => ?_, ?_, ⟨name, hne, rfl⟩, hdot, hhead, hlast⟩
    · rcases List.mem_append.mp hc with hc | hc
      · exact (contains_partSet.mp (hname c hc)).1
      · rcases List.mem_cons.mp hc with rfl | hc
        · decide
        · exact (contains_partSet.mp (hcontains c hc)).1
    · rw [List.count_append, List.count_cons_self, hnone hname, hnone hcontains]

/-- The domain is what the match keeps. -/
theorem mailDomain?_of_find? {m : Pattern.Match}
    (h : (Pattern.Searcher.program mailNode.program).find? cs.toArray 0 = some m) :
    ∃ domain, IsAddress cs domain ∧ mailDomain? cs = some domain := by
  obtain ⟨-, name, domain, hcs, hne, hname, hdomain, hend⟩ :=
    matches_mailNode_iff.mp (Node.matches_of_find? h)
  have hkept : m.kept = [(3, cs.length), (2, name.length + 1)] := congrArg Spot.kept hend
  have hgroup : m.group? 1 = some (name.length + 1, cs.length) := by
    rw [Pattern.Match.group?, hkept]
    rfl
  have hslice : Pattern.slice cs.toArray (name.length + 1) cs.length = domain := by
    have hdrop : cs.drop (name.length + 1) = domain := by simp [hcs]
    have hle : domain.length ≤ cs.length - (name.length + 1) := by
      rw [← hdrop, List.length_drop]
    rw [Pattern.slice, Array.toList_extract, List.extract_eq_take_drop, hdrop,
      List.take_of_length_le hle]
  refine ⟨domain, isAddress_iff.mpr ⟨name, hcs, hne, hname, hdomain⟩, ?_⟩
  rw [mailDomain?, mailMatcher?_eq, Option.bind_some, Pattern.Matcher.captured?]
  simp [h, hgroup, hslice]

/-- **The group of the pattern is the domain of a mail address.** -/
theorem mailDomain?_eq_some_iff : mailDomain? cs = some domain ↔ IsAddress cs domain := by
  constructor
  · intro h
    cases hfound : (Pattern.Searcher.program mailNode.program).find? cs.toArray 0 with
    | none =>
      rw [mailDomain?, mailMatcher?_eq, Option.bind_some, Pattern.Matcher.captured?] at h
      simp [hfound] at h
    | some m =>
      obtain ⟨domain', haddress, hdomain⟩ := mailDomain?_of_find? hfound
      obtain rfl := Option.some.inj (h.symm.trans hdomain)
      exact haddress
  · intro h
    obtain ⟨name, hcs, hne, hname, hdomain⟩ := isAddress_iff.mp h
    have hmatch : mailNode.Matches cs.toArray ⟨0, []⟩ _ :=
      matches_mailNode_iff.mpr ⟨rfl, name, domain, hcs, hne, hname, hdomain, rfl⟩
    cases hfound : (Pattern.Searcher.program mailNode.program).find? cs.toArray 0 with
    | none =>
      refine absurd hmatch (Node.not_matches_of_find? le_rfl (Nat.zero_le _) ?_)
      rw [hfound]
      simp
    | some m =>
      obtain ⟨domain', haddress, hdomain⟩ := mailDomain?_of_find? hfound
      rw [hdomain, h.unique haddress]

/-- **The domain of a mail address**, in lowercase, is extracted from every text that is one when the
blanks at its ends are left out; from any other text nothing is extracted. -/
theorem extractDomain_address (args : List Value) :
    (extractDomain args ≠ .null ↔
      ∃ domain, IsAddress (Text.trim (Arguments.text args 0)).toList domain) ∧
    ∀ domain, IsAddress (Text.trim (Arguments.text args 0)).toList domain →
      extractDomain args = .text (Text.lower (String.ofList domain)) := by
  have haddress : ∀ domain, IsAddress (Text.trim (Arguments.text args 0)).toList domain →
      extractDomain args = .text (Text.lower (String.ofList domain)) := by
    intro domain h
    rw [extractDomain, mailDomain?_eq_some_iff.mpr h]
    rfl
  refine ⟨⟨fun h => ?_, ?_⟩, haddress⟩
  · cases hdomain : mailDomain? (Text.trim (Arguments.text args 0)).toList with
    | none =>
      rw [extractDomain, hdomain] at h
      exact absurd rfl h
    | some domain => exact ⟨domain, mailDomain?_eq_some_iff.mp hdomain⟩
  · rintro ⟨domain, h⟩
    rw [haddress domain h]
    simp

/-- An address with blanks around it and two dots in a row. -/
theorem extractDomain_address_dots :
    IsAddress (Text.trim " Ann@Mail..Example \n").toList "Mail..Example".toList ∧
      extractDomain [.text " Ann@Mail..Example \n"] = .text "mail..example" := by
  have htrim : (Text.trim " Ann@Mail..Example \n").toList = "Ann@Mail..Example".toList := by decide
  have hblank : ∀ c ∈ "Ann@Mail..Example".toList, isBlank c = false := by simp [isBlank]
  have haddress : IsAddress (Text.trim " Ann@Mail..Example \n").toList "Mail..Example".toList := by
    rw [htrim]
    exact ⟨hblank, by decide, ⟨"Ann".toList, by decide, by decide⟩, by decide, by decide, by decide⟩
  have hlower : Text.lower (String.ofList "Mail..Example".toList) = "mail..example" := by decide
  refine ⟨haddress, ?_⟩
  rw [(extractDomain_address [.text " Ann@Mail..Example \n"]).2 _ haddress, hlower]

end Leads

end RecordFormula
