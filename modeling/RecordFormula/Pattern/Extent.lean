import RecordFormula.CharSet.Utf8
import RecordFormula.Digest.Fnv
import RecordFormula.Pattern.Node
import Std.Data.HashMap

/-!
# The extent of patterns

A pattern may be large only up to a limit, which is put on the automaton that reads bytes and
accepts the texts that match: on the one that reads them forwards, and on the one that reads them
backwards. Every state takes the same room, and a state with several ways on takes more for each.

The states of a set are shared where the same ways lead on. A table tells whether a state with these
ways was there before; of two whose keys have the same slot it forgets the earlier one, so that the
number of states depends on the numbers of the states before them.

* `Pattern.Extent` — the room taken so far;
* `Pattern.Node.extent?` — the room that a node takes, if it stays below the limit;
* `Pattern.Node.fits` — whether both automata of a whole pattern stay below the limit.
-/

namespace RecordFormula

namespace Pattern

/-- The room that an automaton takes. -/
structure Extent where
  /-- The number of its states. -/
  states : Nat
  /-- The bytes that states take beyond what every state takes. -/
  extra : Nat
deriving DecidableEq, Repr

namespace Extent

/-- The bytes that an automaton takes. -/
def room (e : Extent) : Nat := 32 * e.states + e.extra

/-- The greatest room that is granted. -/
def limit : Nat := 10485760

/-- Room for some more states, if it is granted. -/
def grow? (e : Extent) (states extra : Nat) : Option Extent :=
  let grown : Extent := ⟨e.states + states, e.extra + extra⟩
  if grown.room ≤ limit then some grown else none

/-- The bytes that one way of a state with several costs. -/
def perWay : Nat := 4

/-- The bytes that a way costs which names the bytes that it takes. -/
def perRange : Nat := 8

/-- Room taken so many times by the same. -/
def times? (f : Extent → Option Extent) : Nat → Extent → Option Extent
  | 0, e => some e
  | n + 1, e =>
    match f e with
    | some e => times? f n e
    | none => none

end Extent

/-! ## Sets -/

/-- A table of states by what leads on from them. -/
structure StateTable (α : Type) where
  /-- The room taken so far. -/
  extent : Extent
  /-- The key that holds a slot, and the state that it stands for. -/
  slots : Std.HashMap Nat (α × Nat)

/-- The state with a key, which is new unless the key still holds its slot. -/
def StateTable.state {α : Type} [DecidableEq α] (t : StateTable α) (key : α) (slot extra : Nat) :
    Nat × StateTable α :=
  let fresh := t.extent.states
  let added : StateTable α :=
    ⟨⟨fresh + 1, t.extent.extra + extra⟩, t.slots.insert slot (key, fresh)⟩
  match t.slots[slot]? with
  | some (held, state) => if held = key then (state, t) else (fresh, added)
  | none => (fresh, added)

/-- The ways on from a state: the bytes that they take, and the states that they lead to. -/
abbrev Ways := List (CharSet.ByteRange × Nat)

/-- The slot of some ways. -/
def Ways.slot (ways : Ways) : Nat :=
  (Fnv.digest (ways.flatMap fun way => [way.1.1, way.1.2, way.2])).toNat % 10000

/-- The states of some ascending sequences that lead to a last state, from the last byte to the
first. The sequences have at most so many bytes. -/
def forwardState (last : Nat) :
    Nat → List (List CharSet.ByteRange) → StateM (StateTable Ways) Nat
  | 0, _ => pure last
  | n + 1, sequences =>
    if sequences.all List.isEmpty then pure last
    else do
      let groups := sequences.splitBy fun a b => a.head? == b.head?
      let ways ← groups.mapM fun group => do
        let next ← forwardState last n (group.map List.tail)
        return ((group.head?.bind List.head?).map fun range => (range, next))
      let ways := ways.reduceOption
      modifyGet fun t => t.state ways (Ways.slot ways) (Extent.perRange * ways.length)

/-- The state from which a sequence is read backwards to a last state. -/
def backwardState (last : Nat) (sequence : List CharSet.ByteRange) :
    StateM (StateTable (Nat × CharSet.ByteRange)) Nat :=
  sequence.foldlM (fun state range =>
    modifyGet fun t =>
      t.state (state, range) ((Fnv.digest [state, range.1, range.2]).toNat % 1000) 0) last

namespace Extent

/-- Room for a set: for one of the basic alphabet two states, for another one those of its
sequences. -/
def set? (backward : Bool) (s : CharSet) (e : Extent) : Option Extent :=
  if s.isBasic then e.grow? 2 (perRange * s.ranges.length)
  else if backward then do
    let e ← e.grow? 2 0
    let read := s.byteSequences.mapM fun sequence => backwardState (e.states - 1) sequence
    let (starts, t) := read.run ⟨e, ∅⟩
    t.extent.grow? 0 (perWay * starts.length)
  else do
    let e ← e.grow? 1 0
    let (_, t) := (forwardState (e.states - 1) 4 s.byteSequences).run ⟨e, ∅⟩
    t.extent.grow? 0 0

/-! ## Choices between texts -/

/-- A character list as bytes, in the order in which they are read. -/
def readingOrder (backward : Bool) (cs : List Char) : List Nat :=
  let bytes := cs.flatMap fun c => CharSet.bytesOf c.toNat
  if backward then bytes.reverse else bytes

/-- Words cut where one is empty: the words between two cuts have preference over those after them.
An empty word after another one before all words that are not empty does not count. -/
def preferenceGroups (words : List (List Nat)) : List (List (List Nat)) :=
  let leading := words.takeWhile List.isEmpty
  (leading.take 1 ++ words.drop leading.length).splitOnP List.isEmpty

/-- Room for a tree of words, so many bytes deep at most, without the state at the end of all words.
A state stands for each group of words, and one chooses between them. -/
def tree : Nat → List (List Nat) → Extent
  | 0, _ => ⟨0, 0⟩
  | n + 1, words =>
    if words.all List.isEmpty then ⟨0, 0⟩
    else
      let groups := preferenceGroups words
      let taken := groups.filter (!·.isEmpty)
      let inner := taken.map fun group =>
        let bytes := (group.filterMap List.head?).eraseDups
        let below := bytes.map fun b =>
          tree n ((group.filter fun word => word.head? == some b).map List.tail)
        let cost := if bytes.length ≤ 1 then 0 else perRange * bytes.length
        ⟨(below.map states).sum + 1, (below.map extra).sum + cost⟩
      ⟨(inner.map states).sum + 1,
        (inner.map extra).sum + perWay * (taken.length + (groups.length - 1))⟩

/-- Room for a choice between texts. -/
def words? (backward : Bool) (texts : List (List Char)) (e : Extent) : Option Extent :=
  let words := texts.map (readingOrder backward)
  let depth := (words.map List.length).foldl max 0
  let needed := tree (depth + 1) words
  e.grow? (needed.states + 1) needed.extra

/-! ## Choices between other nodes -/

/-- Room for one alternative after the other. Behind the second one two states join them, and each
one costs a way. -/
def ofAlternatives? : List (Extent → Option Extent) → Extent → Option Extent
  | [], e => some e
  | [first], e => first e
  | first :: second :: rest, e => do
    let e ← (← second (← first e)).grow? 2 (2 * perWay)
    rest.foldlM (fun e next => do (← next e).grow? 0 perWay) e

/-! ## Repetitions -/

/-- Room for a repetition that may go on without end. A state stands behind the last copy of the
item or, if it may be left out, in front of the only one; but where the item may match the empty
text, going back to it and leaving it out are two states. -/
def unbounded? (item : Extent → Option Extent) (mayBeEmpty : Bool) (least : Nat) (e : Extent) :
    Option Extent := do
  if 0 < least then (← times? item least e).grow? 1 (2 * perWay)
  else if mayBeEmpty then (← item e).grow? 3 (4 * perWay)
  else item (← e.grow? 1 (2 * perWay))

/-- Room for a repetition that ends. -/
def bounded? (item : Extent → Option Extent) (least most : Nat) (e : Extent) : Option Extent :=
  let optional := fun (e : Extent) => do item (← e.grow? 1 (2 * perWay))
  if least = 0 ∧ most = 1 then do (← optional e).grow? 1 0
  else do
    let e ← if least = 0 then e.grow? 1 0 else times? item least e
    if most ≤ least then return e else times? optional (most - least) (← e.grow? 1 0)

end Extent

/-! ## Nodes -/

namespace Node

/-- The texts between which a node chooses, if it is a choice between texts. -/
def texts? : Node → Option (List (List Char))
  | .choice first rest => (Node.choice first rest).alternatives.mapM fun
    | .text cs => some cs
    | _ => none
  | _ => none

/-- Room for a node whose alternatives need the given room. -/
def ofAlternatives? (backward : Bool) (n : Node) (alternatives : List (Extent → Option Extent)) :
    Extent → Option Extent :=
  match n.texts? with
  | some texts => Extent.words? backward texts
  | none => Extent.ofAlternatives? alternatives

/-- Room for each of the alternatives of a node. What is kept is not kept backwards. -/
def alternativeExtents (backward : Bool) : Node → List (Extent → Option Extent)
  | .empty => [fun e => e.grow? 1 0]
  | .text cs => [fun e => e.grow? (Extent.readingOrder backward cs).length 0]
  | .set s => [Extent.set? backward s]
  | .anchor _ => [fun e => e.grow? 1 0]
  | .capture _ content =>
    let inner := content.ofAlternatives? backward (content.alternativeExtents backward)
    if backward then [inner]
    else [fun e => do (← inner (← e.grow? 1 0)).grow? 1 0]
  | .sequence first rest =>
    let first := first.ofAlternatives? backward (first.alternativeExtents backward)
    let rest := rest.ofAlternatives? backward (rest.alternativeExtents backward)
    if backward then [fun e => do first (← rest e)] else [fun e => do rest (← first e)]
  | .choice first rest =>
    first.ofAlternatives? backward (first.alternativeExtents backward) ::
      rest.alternativeExtents backward
  | .repeated least most _ item =>
    let inner := item.ofAlternatives? backward (item.alternativeExtents backward)
    match most with
    | none => [Extent.unbounded? inner (item.shortest?.all (· == 0)) least]
    | some most => [Extent.bounded? inner least most]

/-- Room for a node behind what is there already. -/
def extent? (backward : Bool) (n : Node) : Extent → Option Extent :=
  n.ofAlternatives? backward (n.alternativeExtents backward)

/-! ## Whole patterns -/

/-- Does a match start at the start of the text at all events? -/
def startsText : Node → Bool
  | .anchor p => p == .textStart
  | .capture _ content => content.startsText
  | .sequence first rest => first.startsText || (first.longest? == some 0 && rest.startsText)
  | .choice first rest => first.startsText && rest.startsText
  | .repeated least _ _ item => 0 < least && item.startsText
  | _ => false

/-- Does a match end at the end of the text at all events? -/
def endsText : Node → Bool
  | .anchor p => p == .textEnd
  | .capture _ content => content.endsText
  | .sequence first rest => rest.endsText || (rest.longest? == some 0 && first.endsText)
  | .choice first rest => first.endsText && rest.endsText
  | .repeated least _ _ item => 0 < least && item.endsText
  | _ => false

/-- The states in front of a pattern: one, or three that look past what is before a match. -/
def entrance (anchored : Bool) : Extent := if anchored then ⟨1, 0⟩ else ⟨3, 16⟩

/-- Room for the automaton that reads forwards. It keeps the place of the whole match, and its last
state accepts. -/
def forwardExtent? (n : Node) : Option Extent := do
  (← n.extent? false (← (entrance n.startsText).grow? 1 0)).grow? 2 0

/-- Room for the automaton that reads backwards. Its last state accepts. -/
def backwardExtent? (n : Node) : Option Extent := do
  (← n.extent? true (entrance n.endsText)).grow? 1 0

/-- Do the automata of a whole pattern stay below the limit? -/
def fits (n : Node) : Bool := n.forwardExtent?.isSome && n.backwardExtent?.isSome

end Node

end Pattern

end RecordFormula
