import RecordFormula.Proofs.Value.Order

/-!
# Equality of values

Equality of formulas converts one operand after the other, yet it does not depend on which comes
first, and a value equals itself unless something in it is not a number.

* `Occurs` — a value in another, at any depth.
* **Equality without conversion goes both ways** (`same_comm`); a value is the same as itself if no
  number in it is not a number (`same_self_iff`).
* **So it is with the equality of formulas** (`looseEq_symm_and_self`).
-/

namespace RecordFormula

namespace Value

open Number (isNaN)

/-! ### Parts -/

section parts

variable {part : Value}

/-- The value is the other one, or stands in it at some depth. -/
inductive Occurs (part : Value) : Value → Prop where
  /-- Every value stands in itself. -/
  | here : Occurs part part
  /-- What stands in an element stands in the array. -/
  | item {items : List Value} {v : Value} (hv : v ∈ items) (h : Occurs part v) :
    Occurs part (.array items)
  /-- What stands in a member stands in the object. -/
  | member {members : List (String × Value)} {k : String} {v : Value} (hv : (k, v) ∈ members)
    (h : Occurs part v) : Occurs part (.object members)

/-- A number stands in an array if it stands in an element. -/
theorem occurs_number_array {x : Float} {items : List Value} :
    Occurs (.number x) (.array items) ↔ ∃ v ∈ items, Occurs (.number x) v := by
  constructor
  · rintro (_ | ⟨hv, h⟩)
    exact ⟨_, hv, h⟩
  · rintro ⟨v, hv, h⟩
    exact .item hv h

/-- A number stands in an object if it stands in a member. -/
theorem occurs_number_object {x : Float} {members : List (String × Value)} :
    Occurs (.number x) (.object members) ↔ ∃ p ∈ members, Occurs (.number x) p.2 := by
  constructor
  · rintro (_ | _ | ⟨hv, h⟩)
    exact ⟨_, hv, h⟩
  · rintro ⟨p, hp, h⟩
    exact .member hp h

end parts

/-! ### Equality without conversion -/

section same

mutual

/-- **Equality without conversion goes both ways.** -/
theorem same_comm : ∀ a b : Value, same a b = same b a
  | .null, b => by cases b <;> rfl
  | .boolean p, b => by
    cases b with
    | boolean q => exact Bool.beq_comm
    | _ => rfl
  | .number x, b => by
    cases b with
    | number y => exact Number.beq_comm x y
    | _ => rfl
  | .text s, b => by
    cases b with
    | text t => exact Bool.beq_comm
    | _ => rfl
  | .array as, b => by
    cases b with
    | array bs => exact sameItems_comm as bs
    | _ => rfl
  | .object as, b => by
    cases b with
    | object bs => exact sameMembers_comm as bs
    | _ => rfl

/-- So it does for lists of values. -/
theorem sameItems_comm : ∀ as bs : List Value, sameItems as bs = sameItems bs as
  | [], bs => by cases bs <;> rfl
  | a :: as, bs => by
    cases bs with
    | nil => rfl
    | cons b bs => rw [sameItems, sameItems, same_comm a b, sameItems_comm as bs]

/-- So it does for named values. -/
theorem sameMembers_comm : ∀ as bs : List (String × Value), sameMembers as bs = sameMembers bs as
  | [], bs => by cases bs <;> rfl
  | (k, a) :: as, bs => by
    cases bs with
    | nil => rfl
    | cons p bs =>
      obtain ⟨l, b⟩ := p
      rw [sameMembers, sameMembers, same_comm a b, sameMembers_comm as bs, Bool.beq_comm (a := k)]

end

/-- No number in the value is not a number. -/
def FreeOfNaN (v : Value) : Prop := ∀ x, Occurs (.number x) v → isNaN x = false

/-- A single number. -/
theorem freeOfNaN_number {x : Float} : FreeOfNaN (.number x) ↔ isNaN x = false := by
  constructor
  · exact fun h => h x .here
  · rintro h y ⟨⟩
    exact h

/-- The numbers of an array are those of its elements. -/
theorem freeOfNaN_array {items : List Value} :
    FreeOfNaN (.array items) ↔ ∀ v ∈ items, FreeOfNaN v := by
  constructor
  · exact fun h v hv x hx => h x (.item hv hx)
  · intro h x hx
    obtain ⟨v, hv, hx⟩ := occurs_number_array.mp hx
    exact h v hv x hx

/-- The numbers of an object are those of its members. -/
theorem freeOfNaN_object {members : List (String × Value)} :
    FreeOfNaN (.object members) ↔ ∀ p ∈ members, FreeOfNaN p.2 := by
  constructor
  · exact fun h p hp x hx => h x (.member hp hx)
  · intro h x hx
    obtain ⟨p, hp, hx⟩ := occurs_number_object.mp hx
    exact h p hp x hx

mutual

/-- A value is the same as itself exactly if no number in it is not a number. -/
theorem same_self_iff : ∀ a : Value, same a a = true ↔ FreeOfNaN a
  | .null => iff_of_true rfl (by rintro x ⟨⟩)
  | .boolean p => iff_of_true (by simp [same]) (by rintro x ⟨⟩)
  | .number x => by rw [freeOfNaN_number, ← Number.beq_self_iff]; rfl
  | .text s => iff_of_true (by simp [same]) (by rintro x ⟨⟩)
  | .array as => by rw [same, sameItems_self_iff as, freeOfNaN_array]
  | .object as => by rw [same, sameMembers_self_iff as, freeOfNaN_object]

/-- A list of values is the same as itself exactly if each value is. -/
theorem sameItems_self_iff : ∀ as : List Value, sameItems as as = true ↔ ∀ v ∈ as, FreeOfNaN v
  | [] => by simp [sameItems]
  | a :: as => by
    rw [sameItems, Bool.and_eq_true, same_self_iff a, sameItems_self_iff as, List.forall_mem_cons]

/-- Named values are the same as themselves exactly if each value is. -/
theorem sameMembers_self_iff : ∀ as : List (String × Value),
    sameMembers as as = true ↔ ∀ p ∈ as, FreeOfNaN p.2
  | [] => by simp [sameMembers]
  | (k, a) :: as => by
    rw [sameMembers, beq_self_eq_true, Bool.true_and, Bool.and_eq_true, same_self_iff a,
      sameMembers_self_iff as, List.forall_mem_cons]

end

end same

/-! ### Equality of formulas -/

section loose

variable {a b : Value}

/-- Nothing equals only nothing. -/
theorem looseEq_null_left (b : Value) : looseEq .null b = b.isNull := by
  cases b <;> simp [looseEq, isNull]

/-- Only nothing equals nothing. -/
theorem looseEq_null_right (a : Value) : looseEq a .null = a.isNull := by
  cases a <;> simp [looseEq, isNull]

/-- **Equality goes both ways.** -/
theorem looseEq_comm (a b : Value) : a.looseEq b = b.looseEq a := by
  by_cases ha : a = .null
  · rw [ha, looseEq_null_left, looseEq_null_right]
  by_cases hb : b = .null
  · rw [hb, looseEq_null_left, looseEq_null_right]
  by_cases harrays : ∃ as bs, a = .array as ∧ b = .array bs
  · obtain ⟨as, bs, rfl, rfl⟩ := harrays
    rw [looseEq, looseEq, sameItems_comm]
  by_cases hobjects : ∃ as bs, a = .object as ∧ b = .object bs
  · obtain ⟨as, bs, rfl, rfl⟩ := hobjects
    rw [looseEq, looseEq, sameMembers_comm]
  -- all other values are equal if neither comes first
  have h : MeetAsScalars a b :=
    ⟨ha, hb, fun as bs h => harrays ⟨as, bs, h⟩, fun as bs h => hobjects ⟨as, bs, h⟩⟩
  have h' : MeetAsScalars b a :=
    ⟨hb, ha, fun as bs h => harrays ⟨bs, as, h.symm⟩, fun as bs h => hobjects ⟨bs, as, h.symm⟩⟩
  rw [looseEq_eq_compare? h, looseEq_eq_compare? h', compare?_swap a b]
  cases a.compare? b with
  | none => rfl
  | some o => cases o <;> rfl

/-- A value meets itself without conversion. -/
theorem looseEq_self (a : Value) : a.looseEq a = a.same a := by
  cases a <;> simp [looseEq, same]

/-- **Equality goes both ways, and a value equals itself exactly if no number in it, at any depth,
is not a number.** -/
theorem looseEq_symm_and_self (a b : Value) :
    a.looseEq b = b.looseEq a ∧
      (a.looseEq a = true ↔ ∀ x, Occurs (.number x) a → isNaN x = false) := by
  refine ⟨looseEq_comm a b, ?_⟩
  rw [looseEq_self]
  exact same_self_iff a

end loose

end Value

end RecordFormula
