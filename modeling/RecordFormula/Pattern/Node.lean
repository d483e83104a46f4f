import RecordFormula.Pattern.Place

/-!
# Nodes

The meaning of a pattern in a simple form: neighbouring texts are one text, a choice between
characters is a set, and what all alternatives start with stands in front of the choice. So a
sequence or a choice of nodes is made by a function, not by its constructor.

* `Pattern.Node` — the nodes;
* `Pattern.Node.shortest?`, `Pattern.Node.longest?` — the bounds of the lengths that a node matches;
* `Pattern.Node.ofSequence`, `Pattern.Node.ofChoices`, `Pattern.Node.ofRepeated` — making nodes.
-/

namespace RecordFormula

namespace Pattern

/-- A pattern with its flags applied. -/
inductive Node where
  /-- The empty text. -/
  | empty
  /-- A text that is not empty. -/
  | text (cs : List Char)
  /-- A character of a set. -/
  | set (s : CharSet)
  /-- A place that satisfies a condition. -/
  | anchor (p : Place)
  /-- A text that is kept under a number. -/
  | capture (index : Nat) (content : Node)
  /-- One after the other. -/
  | sequence (first rest : Node)
  /-- The first or, if that leads nowhere, the rest. -/
  | choice (first rest : Node)
  /-- So many times the same, as often as possible or as rarely as possible. -/
  | repeated (least : Nat) (most : Option Nat) (greedy : Bool) (item : Node)
deriving DecidableEq

namespace Node

/-- The number of nodes in a node. -/
def weight : Node → Nat
  | .capture _ content => content.weight + 1
  | .sequence first rest => first.weight + rest.weight + 1
  | .choice first rest => first.weight + rest.weight + 1
  | .repeated _ _ _ item => item.weight + 1
  | _ => 1

/-! ## Lengths -/

/-- The length of the shortest text that a node may match. A set without members matches none. -/
def shortest? : Node → Option Nat
  | .empty => some 0
  | .text cs => some cs.length
  | .set s => if s.isEmpty then none else some 1
  | .anchor _ => some 0
  | .capture _ content => content.shortest?
  | .sequence first rest => do return (← first.shortest?) + (← rest.shortest?)
  | .choice first rest => do return min (← first.shortest?) (← rest.shortest?)
  | .repeated least _ _ item => do return (← item.shortest?) * least

/-- The length of the longest text that a node may match, if it is bounded. -/
def longest? : Node → Option Nat
  | .empty => some 0
  | .text cs => some cs.length
  | .set s => if s.isEmpty then none else some 1
  | .anchor _ => some 0
  | .capture _ content => content.longest?
  | .sequence first rest => do return (← first.longest?) + (← rest.longest?)
  | .choice first rest => do return max (← first.longest?) (← rest.longest?)
  | .repeated _ most _ item => do return (← item.longest?) * (← most)

/-! ## Sets and sequences -/

/-- A character of a set; that of a set with one member is a text. -/
def ofSet (s : CharSet) : Node :=
  match s.single? with
  | some c => .text [c]
  | none => .set s

/-- The nodes that follow each other in a node. -/
def items : Node → List Node
  | .sequence first rest => first :: rest.items
  | n => [n]

/-- A node in front of others: one that is empty is left out, and a text joins the one after it. -/
def before (n : Node) (rest : List Node) : List Node :=
  match n, rest with
  | .empty, rest => rest
  | .text cs, .text ds :: rest => .text (cs ++ ds) :: rest
  | n, rest => n :: rest

/-- The sequence of some nodes as it stands. -/
def chain : List Node → Node
  | [] => .empty
  | [n] => n
  | n :: rest => .sequence n (chain rest)

/-- One node after the other. -/
def ofSequence (ns : List Node) : Node := chain ((ns.flatMap items).foldr before [])

/-! ## Choices -/

/-- The nodes between which a node chooses. -/
def alternatives : Node → List Node
  | .choice first rest => first :: rest.alternatives
  | n => [n]

/-- The choice between some nodes as it stands; a choice from nothing matches nothing. -/
def fork : List Node → Node
  | [] => .set .empty
  | [n] => n
  | n :: rest => .choice n (fork rest)

/-- The character that a node matches, if it is the only text that it matches. -/
def char? : Node → Option Char
  | .text [c] => some c
  | _ => none

/-- The set from which a node takes a character. -/
def set? : Node → Option CharSet
  | .set s => some s
  | _ => none

/-- The nodes that follow each other in a node, if it is a sequence. -/
def parts : Node → List Node
  | .sequence first rest => first :: rest.items
  | _ => []

/-- What two lists have in common at their start. -/
def sharedStart : List Node → List Node → List Node
  | m :: ms, n :: ns => if m = n then m :: sharedStart ms ns else []
  | _, _ => []

/-- What all sequences among some nodes start with, if they are all sequences. -/
def commonStart : List Node → List Node
  | [] => []
  | n :: rest => (rest.map parts).foldl sharedStart n.parts

/-- A choice between characters or between sets as a set. -/
def mergedSet? (ns : List Node) : Option CharSet :=
  match ns.mapM char? with
  | some cs => some (.ofChars cs)
  | none => (ns.mapM set?).map CharSet.unionAll

/-- The choice between some nodes. What all of them start with is taken out, so many times at
most. -/
def ofChoicesWithin : Nat → List Node → Node
  | 0, ns => fork ns
  | n + 1, ns =>
    match ns.flatMap alternatives with
    | [] => .set .empty
    | [n] => n
    | ns =>
      match mergedSet? ns with
      | some s => ofSet s
      | none =>
        match commonStart ns with
        | [] => fork ns
        | start =>
          let ends := ns.map fun m => ofSequence (m.parts.drop start.length)
          ofSequence (start ++ [ofChoicesWithin n ends])

/-- The choice between some nodes. Every start that is taken out is a node less. -/
def ofChoices (ns : List Node) : Node :=
  ofChoicesWithin (ns.foldl (fun total n => total + n.weight) 1) ns

/-! ## Repetitions -/

/-- So many times the same. What matches nothing but the empty text need not be repeated more than
once. -/
def ofRepeated (least : Nat) (most : Option Nat) (greedy : Bool) (item : Node) : Node :=
  let (least, most) :=
    if item.longest? = some 0 then (min least 1, some (min (most.getD 1) 1)) else (least, most)
  if least = 0 ∧ most = some 0 then .empty
  else if least = 1 ∧ most = some 1 then item
  else .repeated least most greedy item

end Node

end Pattern

end RecordFormula
