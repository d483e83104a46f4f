import RecordFormula.Evaluation
import RecordFormula.Members
import RecordFormula.Text.Case

/-!
# Registries

A registry gives functions to names. Upper and lower case make no difference to it.

* `Registry.register`, `Registry.find?` — adding and finding a function;
* `Registry.ofList` — the registry of a list of functions.
-/

namespace RecordFormula

/-- Functions by the uppercase form of their names. -/
structure Registry where
  /-- The functions, in ascending order of their names. -/
  functions : Members Function

namespace Registry

/-- The registry without functions. -/
def empty : Registry := ⟨[]⟩

/-- Adds a function; one of the same name is replaced. -/
def register (r : Registry) (name : String) (f : Function) : Registry :=
  ⟨Members.insert (Text.upper name) f r.functions⟩

/-- Adds functions from the first to the last. -/
def registerAll (r : Registry) (functions : List (String × Function)) : Registry :=
  functions.foldl (fun r p => r.register p.1 p.2) r

/-- The registry of a list of functions; of functions of the same name the last one counts. -/
def ofList (functions : List (String × Function)) : Registry := empty.registerAll functions

/-- The function of a name. -/
def find? (r : Registry) (name : String) : Option Function :=
  Members.find? (Text.upper name) r.functions

/-- Is there a function of this name? -/
def contains (r : Registry) (name : String) : Bool := (r.find? name).isSome

/-- The names, in ascending order. -/
def names (r : Registry) : List String := Members.keys r.functions

/-- The number of functions. -/
def size (r : Registry) : Nat := r.functions.length

end Registry

end RecordFormula
