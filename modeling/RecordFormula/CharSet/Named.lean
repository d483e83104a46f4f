import RecordFormula.CharSet.Age
import RecordFormula.CharSet.Break
import RecordFormula.CharSet.Category
import RecordFormula.CharSet.ScriptExtension

/-!
# Sets of characters by name

The sets that a pattern can ask for by the name of a property, or by its name and a value.

* `CharSet.folded` — the spelling in which names are compared;
* `CharSet.ofName?`, `CharSet.ofValue?` — the set of a property.
-/

namespace RecordFormula

namespace CharSet

/-- Does the character count in a name? -/
def isNameLetter (c : Char) : Bool := c.toNat < 128 && c != ' ' && c != '_' && c != '-'

/-- The folded spelling of a name: a first `is`, blanks, hyphens, underscores and characters beyond
the basic alphabet left out, the rest in lowercase. Only the name `isc` keeps its first letters. -/
def folded (name : String) : String :=
  let startsWithIs := ((name.toList.take 2).map Char.toLower) = ['i', 's']
  let cs := name.toList.drop (if startsWithIs then 2 else 0)
  let kept := (cs.filter isNameLetter).map Char.toLower
  if startsWithIs ∧ kept = ['c'] then "isc" else String.ofList kept

/-- The names that a category shares with a property. They are those of the category. -/
def sharedNames : List String := ["cf", "sc", "lc"]

/-- The set of a property, of a general category or of a script. -/
def ofName? (name : String) : Option CharSet :=
  let name := folded name
  let property := if sharedNames.contains name then none else property? name
  (property.or (category? name)).or (script? name)

/-- The set of the characters for which a property has a value. -/
def ofValue? (name value : String) : Option CharSet :=
  let value := folded value
  match folded name with
  | "generalcategory" | "gc" => category? value
  | "script" | "sc" => script? value
  | "scriptextensions" | "scx" => scriptExtension? value
  | "age" => age? value
  | "graphemeclusterbreak" | "gcb" => clusterBreak? value
  | "wordbreak" | "wb" => wordBreak? value
  | "sentencebreak" | "sb" => sentenceBreak? value
  | _ => none

end CharSet

end RecordFormula
