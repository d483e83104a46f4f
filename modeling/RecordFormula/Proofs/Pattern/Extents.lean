import Mathlib.Algebra.BigOperators.Group.List.Basic
import Mathlib.Algebra.BigOperators.Ring.List
import Mathlib.Algebra.Ring.Nat
import Mathlib.Data.List.ReduceOption
import Mathlib.Data.List.SplitBy
import RecordFormula.Pattern.Extent

/-!
# Bounds of the extent of patterns

How much room a node takes depends on the states that are there already, because some are shared.
A bound does not: each way to take room takes so much at most, and is granted as long as that much is
left.

* `Pattern.Extent.Within` — such a bound.
* `Pattern.Costs` — a bound of what some states of a set take (`Pattern.costs_forwardState`,
  `Pattern.costs_backwardState`).
* **Bounds of sets, of sequences and of unlimited repetitions** (`Pattern.Extent.within_set?`,
  `Pattern.Extent.within_unbounded?`, `Pattern.Node.within_sequence`).
-/

namespace RecordFormula

namespace Pattern

/-! ### States of sets -/

/-- What is read from a table of states takes so much room at most, and its result is as stated. -/
def Costs {α β : Type} (m : StateM (StateTable α) β) (r : Nat) (P : β → Prop) : Prop :=
  ∀ t, P (m.run t).1 ∧ (m.run t).2.extent.room ≤ t.extent.room + r

namespace Costs

variable {α β γ : Type} {m : StateM (StateTable α) β} {f : β → StateM (StateTable α) γ} {r r' : Nat}
  {P : β → Prop} {Q : γ → Prop}

/-- A result costs nothing. -/
theorem pure {b : β} (h : P b) : Costs (pure b : StateM (StateTable α) β) 0 P :=
  fun _ => ⟨h, le_rfl⟩

/-- What is read one after the other costs the sum. -/
theorem bind (hm : Costs m r P) (hf : ∀ b, P b → Costs (f b) r' Q) : Costs (m >>= f) (r + r') Q := by
  intro t
  obtain ⟨hb, hroom⟩ := hm t
  obtain ⟨hc, hroom'⟩ := hf _ hb (m.run t).2
  refine ⟨hc, hroom'.trans ?_⟩
  omega

/-- A greater bound is a bound. -/
theorem mono (hm : Costs m r P) (h : r ≤ r') : Costs m r' P := fun t =>
  ⟨(hm t).1, (hm t).2.trans (by omega)⟩

/-- A state costs what every state costs and what is extra. -/
theorem state [DecidableEq α] (key : α) (slot extra : Nat) :
    Costs (modifyGet fun t => t.state key slot extra) (32 + extra) fun _ => True := by
  intro t
  refine ⟨trivial, ?_⟩
  show (t.state key slot extra).2.extent.room ≤ _
  unfold StateTable.state
  simp only
  split
  · split
    · exact Nat.le_add_right _ _
    · simp only [Extent.room]
      omega
  · simp only [Extent.room]
    omega

/-- What is read for each element costs the sum. -/
theorem mapM {ι : Type} {g : ι → StateM (StateTable α) β} {c : ι → Nat} {l : List ι}
    (h : ∀ i ∈ l, Costs (g i) (c i) fun _ => True) :
    Costs (l.mapM g) (l.map c).sum fun bs => bs.length = l.length := by
  induction l with
  | nil => exact pure rfl
  | cons i rest ih =>
    have hrest := ih fun j hj => h j (List.mem_cons_of_mem i hj)
    rw [List.mapM_cons, List.map_cons, List.sum_cons]
    refine (h i List.mem_cons_self).bind fun b _ => ?_
    have hboth : Costs (rest.mapM g >>= fun bs => Pure.pure (b :: bs)) ((rest.map c).sum + 0)
        fun bs => bs.length = (i :: rest).length :=
      hrest.bind fun bs hbs => pure (by rw [List.length_cons, List.length_cons, hbs])
    exact hboth

end Costs

/-- Groups of neighbours have as many elements as there are. -/
theorem sum_length_splitBy {α : Type} (r : α → α → Bool) (l : List α) :
    ((l.splitBy r).map List.length).sum = l.length := by
  rw [← List.length_flatten, List.flatten_splitBy]

/-- No group is empty, so that there are not more groups than elements. -/
theorem length_splitBy_le {α : Type} (r : α → α → Bool) (l : List α) :
    (l.splitBy r).length ≤ l.length := by
  rw [← sum_length_splitBy r l, ← List.length_map List.length]
  apply List.length_le_sum_of_one_le
  intro k hk
  obtain ⟨group, hgroup, rfl⟩ := List.mem_map.mp hk
  exact List.length_pos_of_ne_nil (List.ne_nil_of_mem_splitBy hgroup)

/-- **The states that read some sequences forwards** cost 40 bytes for every byte of each. -/
theorem costs_forwardState (last n : Nat) (sequences : List (List CharSet.ByteRange)) :
    Costs (forwardState last n sequences) (40 * n * sequences.length) fun _ => True := by
  induction n generalizing sequences with
  | zero => exact (Costs.pure trivial).mono (Nat.zero_le _)
  | succ n ih =>
    rw [forwardState]
    split_ifs with hempty
    · exact (Costs.pure trivial).mono (Nat.zero_le _)
    · have hne : sequences ≠ [] := fun h => hempty (by rw [h]; rfl)
      have hpos : 0 < sequences.length := List.length_pos_of_ne_nil hne
      have hsum := sum_length_splitBy (fun a b => a.head? == b.head?) sequences
      have hlength := length_splitBy_le (fun a b => a.head? == b.head?) sequences
      generalize sequences.splitBy (fun a b => a.head? == b.head?) = groups at hsum hlength
      -- the states of all groups, and one state in front of them
      have hways : Costs (groups.mapM fun group => do
          let next ← forwardState last n (group.map List.tail)
          return ((group.head?.bind List.head?).map fun range => (range, next)))
          (40 * n * sequences.length) fun ways => ways.length = groups.length := by
        rw [← hsum, ← List.sum_map_mul_left groups List.length (40 * n)]
        refine Costs.mapM fun group _ => ?_
        have hgroup := ih (group.map List.tail)
        rw [List.length_map] at hgroup
        exact hgroup.bind fun _ _ => Costs.pure trivial
      have hstate : ∀ ways : List (Option (CharSet.ByteRange × Nat)), ways.length = groups.length →
          Costs (modifyGet fun t : StateTable Ways =>
            t.state ways.reduceOption (Ways.slot ways.reduceOption)
              (Extent.perRange * ways.reduceOption.length))
            (32 + Extent.perRange * groups.length) fun _ => True := by
        intro ways hways
        have hfewer : ways.reduceOption.length ≤ groups.length :=
          hways ▸ List.reduceOption_length_le ways
        exact (Costs.state _ _ _).mono (Nat.add_le_add_left (Nat.mul_le_mul_left _ hfewer) _)
      refine (hways.bind hstate).mono ?_
      have hstep : 40 * (n + 1) * sequences.length =
          40 * n * sequences.length + 40 * sequences.length := by
        rw [Nat.mul_succ, Nat.add_mul]
      rw [hstep, Extent.perRange]
      omega

/-- **The states that read a sequence backwards** cost 32 bytes for every byte. -/
theorem costs_backwardState (last : Nat) (sequence : List CharSet.ByteRange) :
    Costs (backwardState last sequence) (32 * sequence.length) fun _ => True := by
  unfold backwardState
  induction sequence generalizing last with
  | nil => exact Costs.pure trivial
  | cons range rest ih =>
    rw [List.foldlM_cons]
    refine (Costs.bind (Costs.state _ _ _) fun state _ => ih state).mono ?_
    rw [List.length_cons]
    omega

namespace Extent

/-- Room is taken so much at most, and is granted as long as that much is left. -/
def Within (f : Extent → Option Extent) (r : Nat) : Prop :=
  ∀ e : Extent, e.room + r ≤ limit → ∃ e', f e = some e' ∧ e'.room ≤ e.room + r

variable {f g : Extent → Option Extent} {r r' : Nat}

/-- Room for some states. -/
theorem within_grow? (states extra : Nat) :
    Within (fun e => e.grow? states extra) (32 * states + extra) := by
  intro e h
  have hroom : (⟨e.states + states, e.extra + extra⟩ : Extent).room =
      e.room + (32 * states + extra) := by
    simp only [room]
    omega
  exact ⟨_, if_pos (hroom ▸ h), hroom.le⟩

/-- Room that is taken one after the other. -/
theorem Within.bind (hf : Within f r) (hg : Within g r') :
    Within (fun e => (f e).bind g) (r + r') := by
  intro e h
  obtain ⟨e', he', hroom⟩ := hf e (by omega)
  obtain ⟨e'', he'', hroom'⟩ := hg e' (by omega)
  refine ⟨e'', ?_, by omega⟩
  show (f e).bind g = some e''
  rw [he', Option.bind_some, he'']

/-- A greater bound is a bound. -/
theorem Within.mono (hf : Within f r) (h : r ≤ r') : Within f r' := by
  intro e he
  obtain ⟨e', he', hroom⟩ := hf e (by omega)
  exact ⟨e', he', by omega⟩

/-- Room that is taken several times. -/
theorem Within.times? (hf : Within f r) (n : Nat) : Within (times? f n) (n * r) := by
  induction n with
  | zero => exact fun e _ => ⟨e, rfl, Nat.le_add_right _ _⟩
  | succ n ih =>
    intro e h
    rw [Nat.succ_mul] at h ⊢
    obtain ⟨e', he', hroom⟩ := hf e (by omega)
    obtain ⟨e'', he'', hroom'⟩ := ih e' (by omega)
    refine ⟨e'', ?_, by omega⟩
    rw [Extent.times?, he']
    exact he''

/-- What a set takes at most, whether states are shared or not. -/
def setBound (s : CharSet) : Nat :=
  64 + perRange * s.ranges.length + 292 * s.byteSequences.length

/-- No character has more than four bytes. -/
theorem length_bytesOf_le (n : Nat) : (CharSet.bytesOf n).length ≤ 4 := by
  rw [CharSet.bytesOf, List.length_map, String.length_utf8EncodeChar]
  exact Char.utf8Size_le_four _

/-- No sequence of ranges of bytes has more than four. -/
theorem length_le_of_mem_byteSequences {s : CharSet} {q : List CharSet.ByteRange}
    (hq : q ∈ s.byteSequences) : q.length ≤ 4 := by
  obtain ⟨range, -, hq⟩ := List.mem_flatMap.mp hq
  obtain ⟨piece, -, hq⟩ := List.mem_flatMap.mp hq
  obtain ⟨ends, -, rfl⟩ := List.mem_map.mp hq
  rw [List.length_zip]
  exact (min_le_left _ _).trans (length_bytesOf_le _)

/-- Room for what is read from a table behind the states that are there. -/
theorem within_read {α β : Type} {m : Nat → StateM (StateTable α) β} {P : β → Prop} {k : β → Nat}
    (hm : ∀ last, Costs (m last) r P) (hk : ∀ b, P b → k b ≤ r') :
    Within (fun e =>
      let (b, t) := (m (e.states - 1)).run ⟨e, ∅⟩
      t.extent.grow? 0 (k b)) (r + r') := by
  intro e he
  obtain ⟨b, t, hrun⟩ : ∃ b t, (m (e.states - 1)).run ⟨e, ∅⟩ = (b, t) := ⟨_, _, rfl⟩
  obtain ⟨hb, hroom⟩ := hm (e.states - 1) ⟨e, ∅⟩
  simp only [hrun] at hb hroom ⊢
  have hmore := hk b hb
  obtain ⟨e', he', hroom'⟩ := within_grow? 0 (k b) t.extent (by omega)
  exact ⟨e', he', by omega⟩

/-- **The room for a set.** -/
theorem within_set? (backward : Bool) (s : CharSet) : Within (set? backward s) (setBound s) := by
  have hread : ∀ last, Pattern.Costs
      (s.byteSequences.mapM fun sequence => backwardState last sequence)
      (128 * s.byteSequences.length) fun starts => starts.length = s.byteSequences.length := by
    intro last
    have hsum : (s.byteSequences.map fun _ => 128).sum = 128 * s.byteSequences.length := by
      rw [List.map_const', List.sum_replicate, Nat.nsmul_eq_mul, Nat.mul_comm]
    rw [← hsum]
    refine Costs.mapM fun q hq => (costs_backwardState last q).mono ?_
    have := length_le_of_mem_byteSequences hq
    omega
  have hbackward := within_read (k := fun starts => perWay * starts.length) hread
    fun starts hstarts => (congrArg (perWay * ·) hstarts).le
  have hforward := within_read (k := fun _ => 0)
    (fun last => costs_forwardState last 4 s.byteSequences) fun _ _ => le_rfl
  intro e he
  unfold setBound at he ⊢
  unfold set?
  split_ifs with hbasic hback
  · exact (within_grow? 2 (perRange * s.ranges.length)).mono (by omega) e he
  · exact ((within_grow? 2 0).bind hbackward).mono (by rw [perWay]; omega) e he
  · exact ((within_grow? 1 0).bind hforward).mono (by omega) e he

/-- **The room for a repetition without end.** -/
theorem within_unbounded? (hf : Within f r) (mayBeEmpty : Bool) (least : Nat) :
    Within (unbounded? f mayBeEmpty least) (max 1 least * r + 112) := by
  have hle : r ≤ max 1 least * r := Nat.le_mul_of_pos_left r (by omega)
  intro e he
  unfold unbounded?
  split_ifs with hleast hempty
  · have hbound : least * r + (32 * 1 + 2 * perWay) ≤ max 1 least * r + 112 := by
      rw [show max 1 least = least by omega, perWay]
      omega
    exact ((hf.times? least).bind (within_grow? 1 (2 * perWay))).mono hbound e he
  · exact (hf.bind (within_grow? 3 (4 * perWay))).mono (by rw [perWay]; omega) e he
  · exact ((within_grow? 1 (2 * perWay)).bind hf).mono (by rw [perWay]; omega) e he

/-- Some characters have not more than four bytes for each. -/
theorem length_readingOrder_le (backward : Bool) (cs : List Char) :
    (readingOrder backward cs).length ≤ 4 * cs.length := by
  have hbytes : (cs.flatMap fun c => CharSet.bytesOf c.toNat).length ≤ 4 * cs.length := by
    induction cs with
    | nil => exact le_rfl
    | cons c rest ih =>
      have hfirst := length_bytesOf_le c.toNat
      rw [List.flatMap_cons, List.length_append, List.length_cons]
      omega
  cases backward
  · exact hbytes
  · exact List.length_reverse.trans_le hbytes

end Extent

/-! ### Nodes -/

namespace Node

open Extent (Within setBound)

variable {backward : Bool} {r r' : Nat} {content first rest item : Node}

/-- A condition on a place takes a state. -/
theorem within_anchor (p : Place) : Within ((Node.anchor p).extent? backward) 32 :=
  Extent.within_grow? 1 0

/-- A text takes a state for every byte. -/
theorem within_text (cs : List Char) : Within ((Node.text cs).extent? backward) (128 * cs.length) := by
  have hbytes := Extent.length_readingOrder_le backward cs
  exact (Extent.within_grow? (Extent.readingOrder backward cs).length 0).mono (by omega)

/-- What is kept takes two states more. -/
theorem within_capture (index : Nat) (h : Within (content.extent? backward) r) :
    Within ((Node.capture index content).extent? backward) (r + 64) := by
  cases backward
  · have hboth := (Extent.within_grow? 1 0).bind (h.bind (Extent.within_grow? 1 0))
    exact hboth.mono (by omega)
  · exact Extent.Within.mono h (Nat.le_add_right _ _)

/-- A sequence takes what both parts take. -/
theorem within_sequence (h : Within (first.extent? backward) r)
    (h' : Within (rest.extent? backward) r') :
    Within ((Node.sequence first rest).extent? backward) (r + r') := by
  cases backward
  · exact h.bind h'
  · exact (h'.bind h).mono (Nat.add_comm r' r).le

/-- A repetition without end takes the copies of its item and little more. -/
theorem within_repeated (least : Nat) (greedy : Bool) (h : Within (item.extent? backward) r) :
    Within ((Node.repeated least none greedy item).extent? backward) (max 1 least * r + 112) :=
  Extent.within_unbounded? h _ least

/-- What stands in front of a pattern is small. -/
theorem room_entrance_le (anchored : Bool) : (entrance anchored).room ≤ 112 := by
  cases anchored <;> decide

/-- **A node fits** whose bound is clearly below the limit. -/
theorem fits_of_within {n : Node} (h : ∀ backward, Within (n.extent? backward) r)
    (hr : r + 208 ≤ Extent.limit) : n.fits := by
  have hforward := ((Extent.within_grow? 1 0).bind ((h false).bind (Extent.within_grow? 2 0)))
    (entrance n.startsText) (by have := room_entrance_le n.startsText; omega)
  have hbackward := ((h true).bind (Extent.within_grow? 1 0)) (entrance n.endsText)
    (by have := room_entrance_le n.endsText; omega)
  obtain ⟨e, he, -⟩ := hforward
  obtain ⟨e', he', -⟩ := hbackward
  have hf : n.forwardExtent? = some e := he
  have hb : n.backwardExtent? = some e' := he'
  rw [fits, hf, hb]
  rfl

end Node

end Pattern

end RecordFormula
