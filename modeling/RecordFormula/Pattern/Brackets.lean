import RecordFormula.Pattern.Escape

/-!
# Sets in brackets

Reads a set of characters in brackets. Sets are nested and combined: what stands side by side is
united first, then the operators combine it from left to right.

* `Pattern.Brackets` — a set of which some brackets are still open;
* `Pattern.Brackets.step?` — reads one item, operator or bracket;
* `Pattern.set?` — reads a whole set.
-/

namespace RecordFormula

namespace Pattern

namespace Brackets

/-- What surrounds the items that are being read. -/
inductive Frame where
  /-- An open bracket: what stands before it in the bracket around it, the latest first, and whether
  the set is negated. -/
  | opened (before : List Class) (negated : Bool)
  /-- An operator with its left operand. -/
  | operand (op : SetOperation) (left : Class)

end Brackets

/-- A set of which some brackets are still open. -/
structure Brackets where
  /-- What surrounds the items, from the inside outwards. -/
  frames : List Brackets.Frame
  /-- The items read since the last bracket or operator, the latest first. -/
  items : List Class

namespace Brackets

/-- The sets that are known by a name of their own inside brackets. -/
def basicNames : List String :=
  ["alnum", "alpha", "ascii", "blank", "cntrl", "digit", "graph", "lower", "print", "punct",
    "space", "upper", "word", "xdigit"]

/-- Reads a named set, in colons, after its opening bracket. -/
def named? : List Char → Option (Class × List Char)
  | ':' :: cs =>
    let (negated, cs) := match cs with
      | '^' :: cs => (true, cs)
      | cs => (false, cs)
    let name := String.ofList (cs.takeWhile (· != ':'))
    match cs.dropWhile (· != ':') with
    | ':' :: ']' :: rest =>
      if basicNames.contains name then some (.basic name negated, rest) else none
    | _ => none
  | _ => none

/-- The hyphens at the start of a set stand for themselves. -/
def leadingHyphens (spaced : Bool) : Nat → List Char → List Class × List Char
  | n + 1, '-' :: rest =>
    let (items, rest) := leadingHyphens spaced n (visible spaced rest)
    (.char '-' :: items, rest)
  | _, cs => ([], cs)

/-- Reads the start of a set after its opening bracket: the sign of negation, hyphens, and a closing
bracket that stands for itself because the set would otherwise be empty. -/
def start? (spaced : Bool) (cs : List Char) : Option (Bool × List Class × List Char) :=
  let cs := visible spaced cs
  let (negated, cs) := match cs with
    | '^' :: cs => (true, visible spaced cs)
    | cs => (false, cs)
  let (hyphens, cs) := leadingHyphens spaced cs.length cs
  match hyphens, cs with
  | _, [] => none
  | [], ']' :: rest =>
    match visible spaced rest with
    | [] => none
    | rest => some (negated, [.char ']'], rest)
  | hyphens, cs => some (negated, hyphens, cs)

/-- Reads a character, as it is or behind a backslash. -/
def item? (spaced : Bool) : List Char → Option (Item × List Char)
  | [] => none
  | '\\' :: rest => escape? spaced rest
  | c :: rest => some (.char c false, rest)

/-- The set of an item that is not a condition on the place. -/
def ofItem? : Item → Option Class
  | .char c _ => some (.char c)
  | .set s => some s
  | .anchor _ => none

/-- The character that tells what a hyphen before the given ones means. In a spaced pattern it is
the next one that is no blank; of a comment it is the first one after its sign. -/
def decisive? (spaced : Bool) (cs : List Char) : Option Char :=
  if !spaced then cs.head?
  else
    match cs.dropWhile isBlank with
    | '#' :: comment => (comment.dropWhile isBlank).head?
    | cs => cs.head?

/-- Does a hyphen before the given characters make a range? Not if it is one of two, or the last
character of a set. -/
def makesRange (spaced : Bool) (cs : List Char) : Bool :=
  decisive? spaced cs != some ']' && decisive? spaced cs != some '-'

/-- Reads a character, a range of characters or a set without brackets. -/
def range? (spaced : Bool) (cs : List Char) : Option (Class × List Char) := do
  let (first, rest) ← item? spaced cs
  match visible spaced rest with
  | [] => none
  | '-' :: after =>
    if makesRange spaced after then
      let (last, rest) ← item? spaced (visible spaced after)
      match first, last with
      | .char a _, .char b _ => if a.toNat ≤ b.toNat then return (.range a b, rest) else none
      | _, _ => none
    else return (← ofItem? first, '-' :: after)
  | rest => return (← ofItem? first, rest)

/-- A right operand combined with the left one that waits for it, if there is one. -/
def joined (right : Class) : List Frame → Class × List Frame
  | .operand op left :: frames => (.combined op left right, frames)
  | frames => (right, frames)

/-- The items as one set. -/
def content (b : Brackets) : Class := Class.ofItems b.items.reverse

/-- Takes one more item. -/
def push (b : Brackets) (s : Class) : Brackets := { b with items := s :: b.items }

/-- Takes an operator. -/
def operator (b : Brackets) (op : SetOperation) : Brackets :=
  let (left, frames) := joined b.content b.frames
  ⟨.operand op left :: frames, []⟩

/-- A set that is read to its end, or one of which brackets are still open. -/
inductive Progress where
  /-- The outermost bracket is closed. -/
  | closed (s : Class)
  /-- It is not. -/
  | unfinished (b : Brackets)

/-- Takes a closing bracket. -/
def close? (b : Brackets) : Option Progress :=
  match joined b.content b.frames with
  | (s, .opened _ negated :: []) => some (.closed (.bracketed negated s))
  | (s, .opened before negated :: frames) =>
    some (.unfinished ⟨frames, .bracketed negated s :: before⟩)
  | _ => none

/-- Opens a bracket. -/
def open? (spaced : Bool) (b : Brackets) (cs : List Char) : Option (Brackets × List Char) :=
  (start? spaced cs).map fun (negated, items, rest) =>
    (⟨.opened b.items negated :: b.frames, items.reverse⟩, rest)

/-- Reads one item, operator or bracket. -/
def step? (spaced : Bool) (b : Brackets) (cs : List Char) : Option (Progress × List Char) :=
  match cs with
  | [] => none
  | '[' :: rest =>
    match named? rest with
    | some (s, rest) => some (.unfinished (b.push s), rest)
    | none => (open? spaced b rest).map fun (b, rest) => (.unfinished b, rest)
  | ']' :: rest => b.close?.map (·, rest)
  | '&' :: '&' :: rest => some (.unfinished (b.operator .intersection), rest)
  | '-' :: '-' :: rest => some (.unfinished (b.operator .difference), rest)
  | '~' :: '~' :: rest => some (.unfinished (b.operator .exclusion), rest)
  | cs => (range? spaced cs).map fun (s, rest) => (.unfinished (b.push s), rest)

/-- Reads up to the bracket that closes the outermost one. -/
def finish? (spaced : Bool) : Nat → Brackets → List Char → Option (Class × List Char)
  | 0, _, _ => none
  | n + 1, b, cs =>
    match step? spaced b (visible spaced cs) with
    | none => none
    | some (.closed s, rest) => some (s, rest)
    | some (.unfinished b, rest) => finish? spaced n b rest

end Brackets

/-- Reads a set after its opening bracket. -/
def set? (spaced : Bool) (cs : List Char) : Option (Class × List Char) := do
  let (b, rest) ← Brackets.open? spaced ⟨[], []⟩ cs
  Brackets.finish? spaced (rest.length + 1) b rest

end Pattern

end RecordFormula
