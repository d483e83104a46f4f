import RecordFormula.Value.Conversion

/-!
# Values on the wire

Values are exchanged as JSON. Writing goes part by part to a medium, which is a text or a document,
and needs no document in between; reading tries the kinds of values one after the other.

* `Medium`, `Value.writeTo` — what the parts of a value become, and a value in a medium;
* `Value.wireText` — the JSON text of a value;
* `Value.decode?` — the value of a document, by the first kind that fits.
-/

namespace RecordFormula

/-- What the parts of a value become when it is written. -/
structure Medium (α : Type) where
  /-- Nothing. -/
  nothing : α
  /-- A truth value. -/
  boolean : Bool → α
  /-- A number, finite or not. -/
  number : Float → α
  /-- A text. -/
  text : String → α
  /-- A list. -/
  array : List α → α
  /-- Named parts. -/
  object : List (String × α) → α

namespace Medium

/-- JSON text without blanks. What is not a finite number is written as `null`. -/
def json : Medium String where
  nothing := "null"
  boolean b := if b then "true" else "false"
  number x := if Number.isFinite x then Json.numberStyle.write x else "null"
  text := Json.quote
  array items := "[" ++ String.intercalate "," items ++ "]"
  object members := "\x7b" ++
    String.intercalate "," (members.map fun p => Json.quote p.1 ++ ":" ++ p.2) ++ "\x7d"

/-- JSON documents. What is not a finite number is nothing. -/
def document : Medium Json where
  nothing := .null
  boolean := .boolean
  number x := if Number.isFinite x then .real x else .null
  text := .text
  array := .array
  object := .object

end Medium

namespace Value

mutual

/-- A value in a medium. -/
def writeTo {α : Type} (m : Medium α) : Value → α
  | .null => m.nothing
  | .boolean b => m.boolean b
  | .number x => m.number x
  | .text s => m.text s
  | .array items => m.array (writeItemsTo m items)
  | .object members => m.object (writeMembersTo m members)

/-- A list of values in a medium. -/
def writeItemsTo {α : Type} (m : Medium α) : List Value → List α
  | [] => []
  | v :: rest => writeTo m v :: writeItemsTo m rest

/-- Named values in a medium. -/
def writeMembersTo {α : Type} (m : Medium α) : List (String × Value) → List (String × α)
  | [] => []
  | (k, v) :: rest => (k, writeTo m v) :: writeMembersTo m rest

end

/-- The JSON text of a value. -/
def wireText (v : Value) : String := v.writeTo .json

/-- The document as nothing. -/
def decodeNull? : Json → Option Value
  | .null => some .null
  | _ => none

/-- The document as a truth value. -/
def decodeBoolean? : Json → Option Value
  | .boolean b => some (.boolean b)
  | _ => none

/-- The document as a number, whole or not. -/
def decodeNumber? : Json → Option Value
  | .integer n => some (.number (Float.ofInt n))
  | .real x => some (.number x)
  | _ => none

/-- The document as a text. -/
def decodeText? : Json → Option Value
  | .text s => some (.text s)
  | _ => none

mutual

/-- The value of a document: the kinds are tried in order, and the first that fits is taken. The
members of an object may stand in any order, and of members with the same name the last counts. -/
def decode? (j : Json) : Option Value :=
  (decodeNull? j).or <| (decodeBoolean? j).or <| (decodeNumber? j).or <| (decodeText? j).or <|
    match j with
    | .array items => (decodeItems? items).map .array
    | .object members => (decodeMembers? members).map fun ms => .object (Members.ofList ms)
    | _ => none

/-- The values of a list of documents. -/
def decodeItems? : List Json → Option (List Value)
  | [] => some []
  | j :: rest => (decode? j).bind fun v => (decodeItems? rest).map (v :: ·)

/-- The values of named documents. -/
def decodeMembers? : List (String × Json) → Option (List (String × Value))
  | [] => some []
  | (k, j) :: rest => (decode? j).bind fun v => (decodeMembers? rest).map ((k, v) :: ·)

end

end Value

end RecordFormula
