import RecordFormula.Pattern.Brackets
import RecordFormula.Text.Letter

/-!
# Reading patterns

Reads a regular expression. Open groups wait on a stack while their content is read, so a pattern
may be nested to any depth; patterns nested deeper than `Pattern.greatestDepth` are refused in the
end.

* `Pattern.Reader` — a pattern of which some groups are still open;
* `Pattern.Reader.step?` — reads one item, operator or parenthesis;
* `Pattern.ofChars?` — the pattern that a text spells.
-/

namespace RecordFormula

namespace Pattern

/-- A group that is still open. -/
structure OpenGroup where
  /-- What it is for. -/
  kind : GroupKind
  /-- The choices before it in the group around it, the latest first. -/
  choices : List Pattern
  /-- The items before it in the present choice, the latest first. -/
  items : List Pattern
  /-- Is the pattern around it spaced? -/
  spaced : Bool

/-- A pattern of which some groups are still open. -/
structure Reader where
  /-- The open groups, the innermost first. -/
  groups : List OpenGroup
  /-- The choices read in the innermost group, the latest first. -/
  choices : List Pattern
  /-- The items read in the present choice, the latest first. -/
  items : List Pattern
  /-- Do blanks not count at present? -/
  spaced : Bool
  /-- The number of groups that keep what they match. -/
  captures : Nat
  /-- The names of groups. -/
  names : List String

namespace Reader

/-- The state before anything is read. -/
def start : Reader := ⟨[], [], [], false, 0, []⟩

/-- Takes one more item. -/
def push (r : Reader) (p : Pattern) : Reader := { r with items := p :: r.items }

/-- What has been read of the innermost group. -/
def content (r : Reader) : Pattern :=
  ofChoices (ofSequence r.items.reverse :: r.choices).reverse

/-- Starts the next choice. -/
def nextChoice (r : Reader) : Reader :=
  { r with choices := ofSequence r.items.reverse :: r.choices, items := [] }

/-- Opens a group. -/
def openGroup (r : Reader) (kind : GroupKind) (spaced : Bool) : Reader :=
  { r with
    groups := ⟨kind, r.choices, r.items, r.spaced⟩ :: r.groups
    choices := []
    items := []
    spaced := spaced }

/-- Opens a group that keeps what it matches. No two groups have the same name. -/
def openCapture? (r : Reader) (name : Option String) : Option Reader :=
  if name.any r.names.contains then none
  else
    let n := r.captures + 1
    some { r.openGroup (.capture n name) r.spaced with
      captures := n
      names := name.toList ++ r.names }

/-- Closes the innermost group. -/
def closeGroup? (r : Reader) : Option Reader :=
  match r.groups with
  | [] => none
  | g :: groups =>
    some { r with
      groups
      choices := g.choices
      items := .group g.kind r.content :: g.items
      spaced := g.spaced }

/-- Can the character stand in the name of a group? -/
def isNameCharacter (first : Bool) (c : Char) : Bool :=
  if first then c == '_' || Letter.isAlphabetic c
  else c == '_' || c == '.' || c == '[' || c == ']' || Letter.isAlphanumeric c

/-- Reads the name of a group up to the angle bracket. -/
def groupName? (cs : List Char) : Option (String × List Char) :=
  match cs.takeWhile (· != '>'), cs.dropWhile (· != '>') with
  | c :: name, _ :: rest =>
    if isNameCharacter true c && name.all (isNameCharacter false) then
      some (String.ofList (c :: name), rest)
    else none
  | _, _ => none

/-- Reads changes of flags up to a colon or a parenthesis, which ends them. Flags after a hyphen are
turned off; a hyphen needs a flag after it, and nothing may be said twice. -/
def flagChange? (off : Bool) (change : FlagChange) :
    List Char → Option (FlagChange × Char × List Char)
  | [] => none
  | '-' :: rest =>
    match off, rest with
    | true, _ => none
    | _, ':' :: _ => none
    | _, ')' :: _ => none
    | false, rest => flagChange? true change rest
  | c :: rest =>
    if c = ':' ∨ c = ')' then some (change.reverse, c, rest)
    else
      match Flag.ofLetter? c with
      | none => none
      | some flag =>
        if change.any (·.1 == flag) then none else flagChange? off ((flag, !off) :: change) rest

/-- Reads the start of a group after its parenthesis, or a change of flags for the rest of a
group. -/
def group? (r : Reader) (cs : List Char) : Option (Reader × List Char) :=
  match visible r.spaced cs with
  | '?' :: 'P' :: '<' :: rest => do
    let (name, rest) ← groupName? rest
    return (← r.openCapture? (some name), rest)
  | '?' :: '<' :: rest => do
    let (name, rest) ← groupName? rest
    return (← r.openCapture? (some name), rest)
  | '?' :: rest => do
    let (change, mark, rest) ← flagChange? false [] rest
    let spaced := change.apply .spaced r.spaced
    if mark = ':' then return (r.openGroup (.plain change) spaced, rest)
    else if change.isEmpty then none
    else return ({ r.push (.flags change) with spaced }, rest)
  | rest => (r.openCapture? none).map (·, rest)

/-- Repeats the last item. There has to be one, and a change of flags cannot be repeated. -/
def repeat? (r : Reader) (least : Nat) (most : Option Nat) (greedy : Bool) : Option Reader :=
  match r.items with
  | [] => none
  | .empty :: _ => none
  | .flags _ :: _ => none
  | p :: items => some { r with items := .repeated least most greedy p :: items }

/-- A question mark behind a repetition makes it lazy. -/
def greed : List Char → Bool × List Char
  | '?' :: rest => (false, rest)
  | rest => (true, rest)

/-- Reads the mark of greed and repeats the last item. -/
def repetition? (r : Reader) (least : Nat) (most : Option Nat) (cs : List Char) :
    Option (Reader × List Char) :=
  let (greedy, rest) := greed cs
  (r.repeat? least most greedy).map (·, rest)

/-- Reads digits between which only characters that do not count may stand. -/
def spacedDigits (spaced : Bool) : Nat → List Char → List Char × List Char
  | n + 1, c :: rest =>
    if Decimal.isDigit c then
      let (ds, rest) := spacedDigits spaced n (visible spaced rest)
      (c :: ds, rest)
    else ([], c :: rest)
  | _, cs => ([], cs)

/-- Reads a number with blanks around it. It has to fit 32 bits. -/
def count? (spaced : Bool) (cs : List Char) : Option (Nat × List Char) :=
  let cs := cs.dropWhile isBlank
  let (ds, rest) := spacedDigits spaced cs.length cs
  let rest := visible spaced (rest.dropWhile isBlank)
  if ds.isEmpty || 4294967296 ≤ Decimal.ofDigits ds then none else some (Decimal.ofDigits ds, rest)

/-- Reads how often to repeat the last item, after the opening brace, and repeats it. -/
def counted? (r : Reader) (cs : List Char) : Option (Reader × List Char) := do
  let (least, rest) ← count? r.spaced (visible r.spaced cs)
  match rest with
  | '\x7d' :: rest => r.repetition? least (some least) (visible r.spaced rest)
  | ',' :: rest =>
    match visible r.spaced rest with
    | '\x7d' :: rest => r.repetition? least none (visible r.spaced rest)
    | rest => do
      let (most, rest) ← count? r.spaced rest
      match rest with
      | '\x7d' :: rest =>
        if least ≤ most then r.repetition? least (some most) (visible r.spaced rest) else none
      | _ => none
  | _ => none

/-- Reads one item, operator or parenthesis. -/
def step? (r : Reader) : List Char → Option (Reader × List Char)
  | [] => none
  | '(' :: rest => r.group? rest
  | ')' :: rest => r.closeGroup?.map (·, rest)
  | '|' :: rest => some (r.nextChoice, rest)
  | '[' :: rest => (set? r.spaced rest).map fun (s, rest) => (r.push (.set s), rest)
  | '?' :: rest => r.repetition? 0 (some 1) rest
  | '*' :: rest => r.repetition? 0 none rest
  | '+' :: rest => r.repetition? 1 none rest
  | '\x7b' :: rest => r.counted? rest
  | '\\' :: rest => (escape? r.spaced rest).map fun (item, rest) => (r.push item.toPattern, rest)
  | '.' :: rest => some (r.push .dot, rest)
  | '^' :: rest => some (r.push (.anchor .lineStart), rest)
  | '$' :: rest => some (r.push (.anchor .lineEnd), rest)
  | c :: rest => some (r.push (.char c false), rest)

/-- Reads up to the end of the text. -/
def run? : Nat → Reader → List Char → Option Reader
  | 0, _, _ => none
  | n + 1, r, cs =>
    match visible r.spaced cs with
    | [] => some r
    | cs => do
      let (r, rest) ← r.step? cs
      run? n r rest

/-- The pattern that has been read, if no group is open. -/
def finish? (r : Reader) : Option Pattern := if r.groups.isEmpty then some r.content else none

end Reader

/-- The depth up to which patterns may be nested. -/
def greatestDepth : Nat := 250

/-- The pattern that some characters spell. -/
def ofChars? (cs : List Char) : Option Pattern := do
  let r ← Reader.run? (cs.length + 1) Reader.start cs
  let p ← r.finish?
  if p.depth ≤ greatestDepth then some p else none

end Pattern

end RecordFormula
