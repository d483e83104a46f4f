import RecordFormula.Proofs.Members
import RecordFormula.Value.Wire

/-!
# Values and JSON

A value becomes JSON by way of a document or at once, and comes back by way of a document or kind by
kind.

* `Value.finitely` — a value with nothing in the place of every number that is not finite.
* **A value comes back from its document finitely** (`Value.ofJson_toJson`).
* **Writing at once gives the document, and its text** (`Value.writeTo_document`,
  `Value.writeTo_json`).
* `Json.Ordered`, `Json.collected` — documents with their members in order, and putting them there.
* **Every document is read, with the value that it has in order** (`Value.decode?_eq`).
* **The ways agree** (`Value.json_ways_agree`).
-/

namespace RecordFormula

/-! ### Documents in order -/

namespace Json

mutual

/-- The document with the members of every object in order; of members with the same name the last
counts. -/
def collected : Json → Json
  | .null => .null
  | .boolean b => .boolean b
  | .integer n => .integer n
  | .real x => .real x
  | .text s => .text s
  | .array items => .array (collectedItems items)
  | .object members => .object (Members.ofList (collectedMembers members))

/-- The documents of a list in order. -/
def collectedItems : List Json → List Json
  | [] => []
  | j :: rest => collected j :: collectedItems rest

/-- Named documents, each in order. -/
def collectedMembers : List (String × Json) → List (String × Json)
  | [] => []
  | (k, j) :: rest => (k, collected j) :: collectedMembers rest

end

/-- The members of every object in the document are in order. -/
inductive Ordered : Json → Prop where
  /-- Nothing. -/
  | null : Ordered .null
  /-- A truth value. -/
  | boolean (b : Bool) : Ordered (.boolean b)
  /-- A whole number. -/
  | integer (n : Int) : Ordered (.integer n)
  /-- A number with a fraction or an exponent. -/
  | real (x : Float) : Ordered (.real x)
  /-- A text. -/
  | text (s : String) : Ordered (.text s)
  /-- A list of documents in order. -/
  | array {items : List Json} (h : ∀ j ∈ items, Ordered j) : Ordered (.array items)
  /-- Named documents in order, the names in order. -/
  | object {members : List (String × Json)} (h : ∀ p ∈ members, Ordered p.2)
    (horder : Members.Ordered members) : Ordered (.object members)

mutual

/-- A document in order stays as it is. -/
theorem collected_of_ordered : ∀ {j : Json}, j.Ordered → j.collected = j
  | .null, _ => rfl
  | .boolean _, _ => rfl
  | .integer _, _ => rfl
  | .real _, _ => rfl
  | .text _, _ => rfl
  | .array items, .array h => by rw [collected, collectedItems_of_ordered h]
  | .object members, .object h horder => by
    rw [collected, collectedMembers_of_ordered h, Members.ofList_eq_self_iff.mpr horder]

/-- A list of documents in order stays as it is. -/
theorem collectedItems_of_ordered : ∀ {items : List Json},
    (∀ j ∈ items, j.Ordered) → collectedItems items = items
  | [], _ => rfl
  | j :: rest, h => by
    rw [collectedItems, collected_of_ordered (h j (by simp)),
      collectedItems_of_ordered fun j' hj' => h j' (.tail _ hj')]

/-- Named documents in order stay as they are. -/
theorem collectedMembers_of_ordered : ∀ {members : List (String × Json)},
    (∀ p ∈ members, p.2.Ordered) → collectedMembers members = members
  | [], _ => rfl
  | (k, j) :: rest, h => by
    rw [collectedMembers, collected_of_ordered (h (k, j) (by simp)),
      collectedMembers_of_ordered fun p hp => h p (.tail _ hp)]

end

end Json

namespace Value

open Number (isFinite)

/-! ### Writing -/

section writing

mutual

/-- The value with nothing in the place of every number that is not finite. -/
def finitely : Value → Value
  | .null => .null
  | .boolean b => .boolean b
  | .number x => if isFinite x then .number x else .null
  | .text s => .text s
  | .array items => .array (finitelyItems items)
  | .object members => .object (finitelyMembers members)

/-- A list of values, each finitely. -/
def finitelyItems : List Value → List Value
  | [] => []
  | v :: rest => finitely v :: finitelyItems rest

/-- Named values, each finitely. -/
def finitelyMembers : List (String × Value) → List (String × Value)
  | [] => []
  | (k, v) :: rest => (k, finitely v) :: finitelyMembers rest

end

mutual

/-- **A value comes back from its document with nothing in the place of every number that is not
finite.** -/
theorem ofJson_toJson : ∀ v : Value, ofJson v.toJson = v.finitely
  | .null => rfl
  | .boolean _ => rfl
  | .number x => by
    rw [toJson, finitely]
    split_ifs
    · rfl
    · rfl
  | .text _ => rfl
  | .array items => by rw [toJson, ofJson, finitely, itemsOfJson_itemsToJson items]
  | .object members => by rw [toJson, ofJson, finitely, membersOfJson_membersToJson members]

/-- So does a list of values. -/
theorem itemsOfJson_itemsToJson : ∀ items : List Value,
    itemsOfJson (itemsToJson items) = finitelyItems items
  | [] => rfl
  | v :: rest => by
    rw [itemsToJson, itemsOfJson, finitelyItems, ofJson_toJson v, itemsOfJson_itemsToJson rest]

/-- So do named values. -/
theorem membersOfJson_membersToJson : ∀ members : List (String × Value),
    membersOfJson (membersToJson members) = finitelyMembers members
  | [] => rfl
  | (k, v) :: rest => by
    rw [membersToJson, membersOfJson, finitelyMembers, ofJson_toJson v,
      membersOfJson_membersToJson rest]

end

mutual

/-- **Writing to a document gives the document of the value.** -/
theorem writeTo_document : ∀ v : Value, v.writeTo .document = v.toJson
  | .null => rfl
  | .boolean _ => rfl
  | .number _ => rfl
  | .text _ => rfl
  | .array items => by
    rw [writeTo, toJson, writeItemsTo_document items]
    rfl
  | .object members => by
    rw [writeTo, toJson, writeMembersTo_document members]
    rfl

/-- So it is with a list of values. -/
theorem writeItemsTo_document : ∀ items : List Value,
    writeItemsTo .document items = itemsToJson items
  | [] => rfl
  | v :: rest => by
    rw [writeItemsTo, itemsToJson, writeTo_document v, writeItemsTo_document rest]

/-- So it is with named values. -/
theorem writeMembersTo_document : ∀ members : List (String × Value),
    writeMembersTo .document members = membersToJson members
  | [] => rfl
  | (k, v) :: rest => by
    rw [writeMembersTo, membersToJson, writeTo_document v, writeMembersTo_document rest]

end

mutual

/-- **Writing to a text gives the text of the document.** -/
theorem writeTo_json : ∀ v : Value, v.writeTo .json = v.toJson.compact
  | .null => rfl
  | .boolean b => by cases b <;> rfl
  | .number x => by
    show (if isFinite x then Json.numberStyle.write x else "null") = _
    rw [toJson]
    split_ifs
    · rfl
    · rfl
  | .text _ => rfl
  | .array items => by
    rw [writeTo, toJson, Json.compact, ← writeItemsTo_json items]
    rfl
  | .object members => by
    rw [writeTo, toJson, Json.compact, ← writeMembersTo_json members]
    rfl

/-- So it is with a list of values. -/
theorem writeItemsTo_json : ∀ items : List Value,
    writeItemsTo .json items = Json.compactItems (itemsToJson items)
  | [] => rfl
  | v :: rest => by
    rw [writeItemsTo, itemsToJson, Json.compactItems, writeTo_json v, writeItemsTo_json rest]

/-- So it is with named values. -/
theorem writeMembersTo_json : ∀ members : List (String × Value),
    (writeMembersTo .json members).map (fun p => Json.quote p.1 ++ ":" ++ p.2) =
      Json.compactMembers (membersToJson members)
  | [] => rfl
  | (k, v) :: rest => by
    rw [writeMembersTo, membersToJson, Json.compactMembers, List.map_cons, writeTo_json v,
      writeMembersTo_json rest]

end

end writing

/-! ### Reading -/

section reading

/-- The values of named documents, one by one. -/
theorem membersOfJson_eq_map (members : List (String × Json)) :
    membersOfJson members = members.map fun p => (p.1, ofJson p.2) := by
  induction members with
  | nil => rfl
  | cons p rest ih => rw [membersOfJson, ih, List.map_cons]

/-- Putting members in order and taking their values go together. -/
theorem ofList_membersOfJson (members : List (String × Json)) :
    Members.ofList (membersOfJson members) = membersOfJson (Members.ofList members) := by
  rw [membersOfJson_eq_map, membersOfJson_eq_map, Members.ofList_map]

mutual

/-- **Every document is read, with the value that it has in order.** -/
theorem decode?_eq : ∀ j : Json, decode? j = some (ofJson j.collected)
  | .null => rfl
  | .boolean _ => rfl
  | .integer _ => rfl
  | .real _ => rfl
  | .text _ => rfl
  | .array items => by
    -- no other kind fits a list
    show (decodeItems? items).map Value.array = _
    rw [decodeItems?_eq items, Json.collected, ofJson]
    rfl
  | .object members => by
    -- nor do they fit named documents
    show (decodeMembers? members).map (fun ms => Value.object (Members.ofList ms)) = _
    rw [decodeMembers?_eq members, Json.collected, ofJson, ← ofList_membersOfJson]
    rfl

/-- So is every list of documents. -/
theorem decodeItems?_eq : ∀ items : List Json,
    decodeItems? items = some (itemsOfJson (Json.collectedItems items))
  | [] => rfl
  | j :: rest => by
    rw [decodeItems?, decode?_eq j, decodeItems?_eq rest]
    rfl

/-- So are named documents. -/
theorem decodeMembers?_eq : ∀ members : List (String × Json),
    decodeMembers? members = some (membersOfJson (Json.collectedMembers members))
  | [] => rfl
  | (k, j) :: rest => by
    rw [decodeMembers?, decode?_eq j, decodeMembers?_eq rest]
    rfl

end

end reading

/-! ### Both directions -/

/-- **The ways between values and JSON agree.** A value comes back from its document with nothing in
the place of every number, at any depth, that is not finite; writing it at once gives the same
document, or the text of that document. Every document is read kind by kind, and with the same value
as by way of a document in order; a document in order is read as it is. -/
theorem json_ways_agree :
    (∀ v : Value, ofJson v.toJson = v.finitely ∧ v.writeTo .document = v.toJson ∧
      v.wireText = v.toJson.compact) ∧
      ∀ j : Json, decode? j = some (ofJson j.collected) ∧
        (j.Ordered → decode? j = some (ofJson j)) := by
  refine ⟨fun v => ⟨ofJson_toJson v, writeTo_document v, writeTo_json v⟩, fun j => ?_⟩
  refine ⟨decode?_eq j, fun hj => ?_⟩
  rw [decode?_eq, Json.collected_of_ordered hj]

/-- A document with a list, a whole number and a number with a fraction, its members in order. -/
theorem json_ways_agree_lead :
    Json.Ordered (.object [("name", .text "Ada"), ("tags", .array [.integer 12, .real 0.5])]) ∧
      decode? (.object [("name", .text "Ada"), ("tags", .array [.integer 12, .real 0.5])]) =
        some (.object [("name", .text "Ada"), ("tags", .array [.number 12.0, .number 0.5])]) := by
  have hordered : Json.Ordered
      (.object [("name", .text "Ada"), ("tags", .array [.integer 12, .real 0.5])]) := by
    have hnames : Members.Ordered
        [("name", Json.text "Ada"), ("tags", .array [.integer 12, .real 0.5])] := by
      unfold Members.Ordered
      decide
    refine .object (fun p hp => ?_) hnames
    simp only [List.mem_cons, List.not_mem_nil, or_false] at hp
    rcases hp with rfl | rfl
    · exact .text "Ada"
    · refine .array fun j hj => ?_
      simp only [List.mem_cons, List.not_mem_nil, or_false] at hj
      rcases hj with rfl | rfl
      · exact .integer 12
      · exact .real 0.5
  exact ⟨hordered, (json_ways_agree.2 _).2 hordered⟩

end Value

end RecordFormula
