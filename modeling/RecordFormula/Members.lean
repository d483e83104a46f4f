/-!
# Members

A finite map with text keys, as the list of its members in ascending order of the keys. Keys are
ordered by their code points. The operations keep the order, so two maps with the same members are
the same list.

* `Members.insert`, `Members.find?`, `Members.ofList` — writing and reading;
* `Members.Ordered` — the keys ascend strictly.
-/

namespace RecordFormula

/-- The members of a map, in ascending order of their keys. -/
abbrev Members (α : Type) := List (String × α)

namespace Members

variable {α : Type}

/-- The keys ascend strictly. -/
def Ordered (m : Members α) : Prop := (m.map (·.1)).Pairwise (· < ·)

/-- Adds a member; a member with the same key is replaced. -/
def insert (key : String) (value : α) : Members α → Members α
  | [] => [(key, value)]
  | (k, v) :: rest =>
    if key < k then (key, value) :: (k, v) :: rest
    else if key = k then (key, value) :: rest
    else (k, v) :: insert key value rest

/-- The value under a key. -/
def find? (key : String) : Members α → Option α
  | [] => none
  | (k, v) :: rest => if key = k then some v else find? key rest

/-- The map of a list of members; of members with the same key the last one counts. -/
def ofList (pairs : List (String × α)) : Members α :=
  pairs.foldl (fun m p => insert p.1 p.2 m) []

/-- The keys, in ascending order. -/
def keys (m : Members α) : List String := m.map (·.1)

end Members

/-- The distinct texts of a list, in ascending order. -/
def distinctTexts (texts : List String) : List String :=
  Members.keys (Members.ofList (texts.map fun t => (t, ())))

end RecordFormula
