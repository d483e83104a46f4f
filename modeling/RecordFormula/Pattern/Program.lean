import RecordFormula.Pattern.Meaning

/-!
# Programs

A pattern as a list of instructions. An instruction leads to the one after it unless it says
otherwise, and a fork leads to two, of which the first is preferred. The instructions of a node
stand together, so that every address in them follows from the address of the first.

* `Pattern.Instruction` — the instructions;
* `Pattern.Node.size`, `Pattern.Node.code` — the instructions of a node, and their number;
* `Pattern.Node.program` — the instructions of a whole pattern.
-/

namespace RecordFormula

namespace Pattern

/-- An instruction. -/
inductive Instruction where
  /-- Takes a character of a set. -/
  | take (s : CharSet)
  /-- Goes on if the place satisfies a condition. -/
  | check (p : Place)
  /-- Keeps the place under a number. -/
  | keep (slot : Nat)
  /-- Goes on at the first address or, if that leads nowhere, at the second. -/
  | fork (preferred other : Nat)
  /-- Goes on at an address. -/
  | jump (target : Nat)
  /-- Ends in a match. -/
  | accept
deriving DecidableEq, Repr

/-- Goes on at one of two addresses: at the first if greedy, at the second otherwise. -/
def Instruction.branch (greedy : Bool) (inside outside : Nat) : Instruction :=
  if greedy then .fork inside outside else .fork outside inside

/-- The same instructions several times, one after the other. -/
def copies (code : Nat → List Instruction) (size : Nat) : Nat → Nat → List Instruction
  | 0, _ => []
  | n + 1, start => code start ++ copies code size n (start + size)

/-- The same instructions several times, each time behind a branch to the end. -/
def optionalCopies (code : Nat → List Instruction) (size : Nat) (greedy : Bool) (stop : Nat) :
    Nat → Nat → List Instruction
  | 0, _ => []
  | n + 1, start =>
    .branch greedy (start + 1) stop ::
      (code (start + 1) ++ optionalCopies code size greedy stop n (start + 1 + size))

namespace Node

/-- The number of instructions of a node. -/
def size : Node → Nat
  | .empty => 0
  | .text cs => cs.length
  | .set _ => 1
  | .anchor _ => 1
  | .capture _ content => content.size + 2
  | .sequence first second => first.size + second.size
  | .choice first second => first.size + second.size + 2
  | .repeated least most _ item =>
    match most with
    | none => if least = 0 then item.size + 2 else least * item.size + 1
    | some most => least * item.size + (most - least) * (item.size + 1)

/-- The instructions of a node, the first of which has the given address. An unlimited repetition
ends with a branch back to its last copy; if it may be left out, a branch around it stands in
front. -/
def code : Node → Nat → List Instruction
  | .empty, _ => []
  | .text cs, _ => cs.map fun c => .take (.singleton c)
  | .set s, _ => [.take s]
  | .anchor p, _ => [.check p]
  | .capture index content, start =>
    .keep (2 * index) :: (content.code (start + 1) ++ [.keep (2 * index + 1)])
  | .sequence first second, start => first.code start ++ second.code (start + first.size)
  | .choice first second, start =>
    let other := start + first.size + 2
    .fork (start + 1) other ::
      (first.code (start + 1) ++ .jump (other + second.size) :: second.code other)
  | .repeated least most greedy item, start =>
    match most with
    | none =>
      if least = 0 then
        let stop := start + item.size + 2
        .branch greedy (start + 1) stop ::
          (item.code (start + 1) ++ [.branch greedy (start + 1) stop])
      else
        let stop := start + least * item.size + 1
        copies item.code item.size least start ++
          [.branch greedy (start + (least - 1) * item.size) stop]
    | some most =>
      let stop := start + least * item.size + (most - least) * (item.size + 1)
      copies item.code item.size least start ++
        optionalCopies item.code item.size greedy stop (most - least) (start + least * item.size)

/-- The instructions of a whole pattern. -/
def program (n : Node) : Array Instruction := (n.code 0 ++ [Instruction.accept]).toArray

end Node

end Pattern

end RecordFormula
