import RecordFormula.Pattern.Program
import Std.Data.HashSet

/-!
# Searching

Where a pattern matches in a text. A program is run depth first and the preferred way of a fork
first. No instruction is run twice at the same place, because what has led nowhere once leads
nowhere again; so the time is bounded by the product of the lengths of program and text.

* `Pattern.Thread`, `Pattern.explore` — running a program from one place;
* `Pattern.Searcher`, `Pattern.Searcher.find?` — the first match from a place on;
* `Pattern.Searcher.matches` — all matches that do not overlap.
-/

namespace RecordFormula

namespace Pattern

/-- A match: the places where it starts and ends, and the places that are kept, the latest first. -/
structure Match where
  /-- The place before the first character. -/
  start : Nat
  /-- The place behind the last character. -/
  stop : Nat
  /-- The places that are kept, by the numbers they are kept under. -/
  kept : List (Nat × Nat)
deriving Repr

/-- The part of the text that a group matches, as its two ends. Group 0 is the whole match. -/
def Match.group? (m : Match) (index : Nat) : Option (Nat × Nat) :=
  if index = 0 then some (m.start, m.stop)
  else
    match m.kept.lookup (2 * index), m.kept.lookup (2 * index + 1) with
    | some start, some stop => some (start, stop)
    | _, _ => none

/-! ## Running a program -/

/-- A state of a running program. -/
structure Thread where
  /-- The address of the next instruction. -/
  address : Nat
  /-- The place in the text. -/
  place : Nat
  /-- The places that are kept, the latest first. -/
  kept : List (Nat × Nat)
deriving Repr

/-- The character before a place. -/
def before (text : Array Char) (place : Nat) : Option Char :=
  if place = 0 then none else text[place - 1]?

/-- The states after an instruction, the preferred one first. -/
def Thread.next (text : Array Char) (t : Thread) : Instruction → List Thread
  | .take s =>
    match text[t.place]? with
    | some c => if s.contains c then [⟨t.address + 1, t.place + 1, t.kept⟩] else []
    | none => []
  | .check p =>
    if p.holds (before text t.place) text[t.place]? then [⟨t.address + 1, t.place, t.kept⟩] else []
  | .keep slot => [⟨t.address + 1, t.place, (slot, t.place) :: t.kept⟩]
  | .fork preferred other => [⟨preferred, t.place, t.kept⟩, ⟨other, t.place, t.kept⟩]
  | .jump target => [⟨target, t.place, t.kept⟩]
  | .accept => []

/-- The pairs of an address and a place that have been run. -/
abbrev Marks := Std.HashSet (Nat × Nat)

/-- Runs the states on a stack until one of them accepts; marks the pairs of address and place that
have been run. The number of steps is limited. -/
def explore (program : Array Instruction) (text : Array Char) :
    Nat → List Thread → Marks → Option Thread × Marks
  | 0, _, marks => (none, marks)
  | _ + 1, [], marks => (none, marks)
  | n + 1, t :: stack, marks =>
    if marks.contains (t.address, t.place) then explore program text n stack marks
    else
      match program[t.address]? with
      | none => explore program text n stack marks
      | some .accept => (some t, marks)
      | some i =>
        explore program text n (t.next text i ++ stack) (marks.insert (t.address, t.place))

/-- The greatest number of steps from one start. Every pair of an address and a place is marked at
most once and then puts at most two states on the stack. -/
def stepLimit (program : Array Instruction) (text : Array Char) : Nat :=
  2 * (program.size * (text.size + 1)) + 2

/-- The first match of a program that starts at one of so many places from the given one on. What
one start has marked leads nowhere from the next start either. -/
def findProgram? (program : Array Instruction) (text : Array Char) :
    Nat → Nat → Marks → Option Match
  | 0, _, _ => none
  | n + 1, start, marks =>
    match explore program text (stepLimit program text) [⟨0, start, []⟩] marks with
    | (some t, _) => some ⟨start, t.place, t.kept⟩
    | (none, marks) => findProgram? program text n (start + 1) marks

/-! ## Plain text -/

/-- Do the characters stand at the place? -/
def standsAt (text : Array Char) : Nat → List Char → Bool
  | _, [] => true
  | place, c :: rest => text[place]? == some c && standsAt text (place + 1) rest

/-- The first match of plain text that starts at one of so many places from the given one on. -/
def findText? (needle : List Char) (text : Array Char) : Nat → Nat → Option Match
  | 0, _ => none
  | n + 1, start =>
    if standsAt text start needle then some ⟨start, start + needle.length, []⟩
    else findText? needle text n (start + 1)

/-! ## All matches -/

/-- What is searched for. -/
inductive Searcher where
  /-- Plain text that is not empty. -/
  | plain (needle : List Char)
  /-- The matches of a program. -/
  | program (instructions : Array Instruction)

/-- The first match from a place on. -/
def Searcher.find? (s : Searcher) (text : Array Char) (place : Nat) : Option Match :=
  let starts := text.size + 1 - place
  match s with
  | .plain needle => findText? needle text starts place
  | .program instructions => findProgram? instructions text starts place ∅

/-- The matches from a place on. An empty match right behind the match before it does not count;
then the search goes on one place further. -/
def Searcher.matchesFrom (s : Searcher) (text : Array Char) :
    Nat → Nat → Option Nat → List Match
  | 0, _, _ => []
  | n + 1, place, last =>
    match s.find? text place with
    | none => []
    | some m =>
      if m.start = m.stop ∧ some m.stop = last then matchesFrom s text n (place + 1) last
      else m :: matchesFrom s text n m.stop (some m.stop)

/-- All matches from the start of the text. Of two steps one at least comes nearer to its end. -/
def Searcher.matches (s : Searcher) (text : Array Char) : List Match :=
  s.matchesFrom text (2 * text.size + 3) 0 none

end Pattern

end RecordFormula
