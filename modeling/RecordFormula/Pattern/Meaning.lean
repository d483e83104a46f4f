import RecordFormula.Pattern.Node

/-!
# What patterns mean

The flags of a pattern are applied from left to right: a change of flags holds up to the end of its
group.

* `Pattern.meaning?` — the meaning of a pattern under some flags, and the flags after it;
* `Pattern.namedGroups` — the groups of a pattern that have names.
-/

namespace RecordFormula

namespace Pattern

/-! ## Characters -/

/-- The ends of lines. -/
def lineEnds (mode : Mode) : CharSet :=
  .ofChars (if mode .carriageReturn then ['\n', '\r'] else ['\n'])

/-- The dot: any character or, without the flag, any that does not end a line. It exists only among
the characters of all scripts. -/
def dotMembers? (mode : Mode) : Option CharSet :=
  if !mode .allScripts then none
  else if mode .dotAll then some .all
  else some (lineEnds mode).complement

/-- The meaning of a character. One that two hexadecimal digits give as a byte has to be basic
unless characters are those of all scripts. -/
def charMeaning? (mode : Mode) (c : Char) (isByte : Bool) : Option Node :=
  if isByte && !isAllowed mode c then none
  else some (Node.ofSet (closed mode (.singleton c)))

/-! ## Patterns -/

/-- The meaning of a group around the meaning of its content. -/
def GroupKind.around (content : Node) : GroupKind → Node
  | .capture index _ => .capture index content
  | .plain _ => content

/-- The flags inside a group. -/
def GroupKind.inside (mode : Mode) : GroupKind → Mode
  | .capture _ _ => mode
  | .plain change => mode.change change

mutual

/-- The meaning of a pattern, and the flags that hold after it. There is none if a set or a
character is excluded by the flags. -/
def meaning? (mode : Mode) : Pattern → Option (Node × Mode)
  | .empty => some (.empty, mode)
  | .flags change => some (.empty, mode.change change)
  | .char c isByte => (charMeaning? mode c isByte).map (·, mode)
  | .dot => (dotMembers? mode).map fun s => (Node.ofSet s, mode)
  | .anchor a => some (.anchor (a.place mode), mode)
  | .set c => (c.members? mode).map fun s => (Node.ofSet s, mode)
  | .repeated least most greedy item =>
    (meaning? mode item).map fun (n, _) =>
      (Node.ofRepeated least most (greedy != mode .swapGreed) n, mode)
  | .group kind content =>
    (meaning? (kind.inside mode) content).map fun (n, _) => (kind.around n, mode)
  | .sequence items => (meanings? mode items).map fun (ns, mode) => (Node.ofSequence ns, mode)
  | .choice items => (meanings? mode items).map fun (ns, mode) => (Node.ofChoices ns, mode)

/-- The meanings of some patterns. A change of flags in one of them holds in those after it. -/
def meanings? (mode : Mode) : List Pattern → Option (List Node × Mode)
  | [] => some ([], mode)
  | p :: rest => do
    let (n, mode) ← meaning? mode p
    let (ns, mode) ← meanings? mode rest
    return (n :: ns, mode)

end

/-- The groups of a pattern that have names. -/
def namedGroups : Pattern → List (String × Nat)
  | .group (.capture index name) content =>
    (name.toList.map fun n => (n, index)) ++ namedGroups content
  | .group (.plain _) content => namedGroups content
  | .repeated _ _ _ item => namedGroups item
  | .sequence items => namedGroupsOfAll items
  | .choice items => namedGroupsOfAll items
  | _ => []
where
  /-- The groups of some patterns that have names. -/
  namedGroupsOfAll : List Pattern → List (String × Nat)
    | [] => []
    | p :: rest => namedGroups p ++ namedGroupsOfAll rest

end Pattern

end RecordFormula
