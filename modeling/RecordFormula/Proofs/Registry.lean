import RecordFormula.Function.Standard
import RecordFormula.Proofs.Members
import RecordFormula.Proofs.Text.Uppercase

/-!
# What is found in a registry

A name finds the function that was last added under a name of the same uppercase form.

* **Case makes no difference** (`Registry.find?_upper`).
* `Registry.mem_of_find?_registerAll`, `Registry.find?_registerAll_of_mem` — every function that is
  found was added, and every function that was added under a name of its own is found.
* **The standard functions are found under their names** (`Registry.find?_standard_of_mem`,
  `Registry.mem_of_find?_standard`).
* `Function.Shape` — how a standard function comes to its value, and **that every function that is
  found does so in one of these ways** (`Function.shape_of_find?`).
-/

namespace RecordFormula

namespace Registry

variable {r : Registry} {f : Function}

/-- What is found after a function has been added. -/
theorem find?_register (r : Registry) (name key : String) (f : Function) :
    (r.register key f).find? name =
      if Text.upper name = Text.upper key then some f else r.find? name :=
  Members.find?_insert ..

/-- **Case makes no difference to what is found.** -/
@[simp] theorem find?_upper (r : Registry) (name : String) :
    r.find? (Text.upper name) = r.find? name := by
  rw [find?, find?, Text.upper_upper]

/-- A function that is found was there before or is one of those that were added. -/
theorem mem_of_find?_registerAll {name : String} :
    ∀ {functions : List (String × Function)} {r : Registry},
      (r.registerAll functions).find? name = some f →
        (∃ p ∈ functions, Text.upper name = Text.upper p.1 ∧ p.2 = f) ∨ r.find? name = some f
  | [], _, h => .inr h
  | p :: rest, r, h => by
    rcases mem_of_find?_registerAll (r := r.register p.1 p.2) h with ⟨q, hq, hname⟩ | h
    · exact .inl ⟨q, List.mem_cons_of_mem _ hq, hname⟩
    · rw [find?_register] at h
      split_ifs at h with hname
      · exact .inl ⟨p, by simp, hname, Option.some.inj h⟩
      · exact .inr h

/-- Functions of other names do not change what is found. -/
theorem find?_registerAll_of_ne {name : String} :
    ∀ {functions : List (String × Function)} (r : Registry),
      (∀ p ∈ functions, Text.upper name ≠ Text.upper p.1) →
        (r.registerAll functions).find? name = r.find? name
  | [], _, _ => rfl
  | p :: rest, r, h => by
    have hrest := find?_registerAll_of_ne (r.register p.1 p.2) fun q hq =>
      h q (List.mem_cons_of_mem _ hq)
    rw [find?_register, if_neg (h p (by simp))] at hrest
    exact hrest

/-- Of functions of different names each is found. -/
theorem find?_registerAll_of_mem {functions : List (String × Function)} {p : String × Function}
    (hp : p ∈ functions)
    (hdistinct : functions.Pairwise fun p q => Text.upper p.1 ≠ Text.upper q.1) (r : Registry) :
    (r.registerAll functions).find? p.1 = some p.2 := by
  obtain ⟨before, after, rfl⟩ := List.append_of_mem hp
  have hsplit : r.registerAll (before ++ p :: after) =
      ((r.registerAll before).register p.1 p.2).registerAll after := by
    simp [registerAll]
  have hafter : ∀ q ∈ after, Text.upper p.1 ≠ Text.upper q.1 :=
    (List.pairwise_cons.mp (List.pairwise_append.mp hdistinct).2.1).1
  rw [hsplit, find?_registerAll_of_ne _ hafter, find?_register, if_pos rfl]

end Registry

/-! ### The standard registry -/

section standard

/-- All standard functions with their names. -/
def Function.standard : List (String × Function) :=
  Function.aggregates ++ Function.texts ++ Function.conditions ++ Function.dates ++ Function.leads

/-- The names are in uppercase. -/
theorem Function.upper_of_mem_standard {p : String × Function} (hp : p ∈ Function.standard) :
    Text.upper p.1 = p.1 := by
  have hall : ∀ p ∈ Function.standard, p.1.toList.all (·.toNat < 0x61) := by decide +kernel
  exact Text.upper_of_lt (hall p hp)

/-- No two functions have the same name. -/
theorem Function.pairwise_standard :
    Function.standard.Pairwise fun p q => Text.upper p.1 ≠ Text.upper q.1 := by
  have hnodup : (Function.standard.map (·.1)).Nodup := by decide +kernel
  refine (List.pairwise_map.mp hnodup).imp_of_mem fun {p q} hp hq hne => ?_
  rwa [Function.upper_of_mem_standard hp, Function.upper_of_mem_standard hq]

namespace Registry

variable {name : String} {f : Function}

/-- The standard registry is that of all standard functions. -/
theorem standard_eq : standard = empty.registerAll Function.standard := by
  simp [standard, builtins, ofList, registerAll, Function.standard]

/-- **Every standard function is found under its name.** -/
theorem find?_standard_of_mem (h : (name, f) ∈ Function.standard) :
    standard.find? name = some f := by
  rw [standard_eq]
  exact find?_registerAll_of_mem h Function.pairwise_standard empty

/-- **Every function that is found is a standard function.** -/
theorem mem_of_find?_standard (h : standard.find? name = some f) :
    (Text.upper name, f) ∈ Function.standard := by
  rw [standard_eq] at h
  rcases mem_of_find?_registerAll h with ⟨p, hp, hname, rfl⟩ | h
  · rwa [hname, Function.upper_of_mem_standard hp]
  · cases h

end Registry

end standard

/-! ### What a standard function looks at -/

section shapes

/-- How the standard function of a name comes to its value. `REPLACE` alone may fail, `NOW` and
`TODAY` alone look at the clock themselves, and `AI_LEAD_SCORE` alone looks at the record. -/
inductive Function.Shape : String → Function → Prop
  /-- It computes with its arguments. -/
  | pure (name : String) (f : List Value → Value) : Shape name (.pure f)
  /-- So does one that is listed with those that wait. -/
  | pureDeferred (name : String) (f : List Value → Value) : Shape name (.pureDeferred f)
  /-- It searches for a pattern, which may be too large. -/
  | replace : Shape "REPLACE" (.ofExcept Texts.replace)
  /-- It tells the time. -/
  | now : Shape "NOW" (.ofClock Dates.timestamp)
  /-- It tells the date. -/
  | today : Shape "TODAY" (.ofClock Dates.today)
  /-- It asks about its arguments. -/
  | asking (name : String) (f : List Value → Enrichment.Session Value) :
    Shape name (.asking fun args _ => f args)
  /-- It asks about its argument or about the record. -/
  | score : Shape "AI_LEAD_SCORE" (.asking Leads.score)

/-- Every standard function has one of the shapes. -/
theorem Function.shape_of_mem {p : String × Function} (hp : p ∈ Function.standard) :
    Shape p.1 p.2 := by
  simp only [Function.standard, List.mem_append] at hp
  rcases hp with (((hp | hp) | hp) | hp) | hp
  · simp only [aggregates, List.mem_cons, List.not_mem_nil, or_false] at hp
    rcases hp with rfl | rfl | rfl | rfl | rfl | rfl | rfl <;> exact .pure _ _
  · simp only [texts, List.mem_cons, List.not_mem_nil, or_false] at hp
    rcases hp with rfl | rfl | rfl | rfl | rfl | rfl | rfl | rfl | rfl
    all_goals first | exact .pure _ _ | exact .replace
  · simp only [conditions, List.mem_cons, List.not_mem_nil, or_false] at hp
    rcases hp with rfl | rfl | rfl | rfl | rfl | rfl | rfl <;> exact .pure _ _
  · simp only [dates, List.mem_cons, List.not_mem_nil, or_false] at hp
    rcases hp with rfl | rfl | rfl | rfl | rfl | rfl | rfl
    all_goals first | exact .pure _ _ | exact .now | exact .today
  · simp only [leads, List.mem_cons, List.not_mem_nil, or_false] at hp
    rcases hp with rfl | rfl | rfl | rfl | rfl | rfl | rfl | rfl | rfl | rfl
    · exact .asking _ fun args => Leads.companyIndustry args []
    · exact .asking _ fun args => Leads.companySize args []
    · exact .asking _ fun args => Leads.email args []
    · exact .asking _ fun args => Leads.phone args []
    · exact .score
    all_goals exact .pureDeferred _ _

/-- **Every function that is found has one of the shapes**, under its uppercase name. -/
theorem Function.shape_of_find? {name : String} {f : Function}
    (h : Registry.standard.find? name = some f) : Shape (Text.upper name) f :=
  shape_of_mem (Registry.mem_of_find?_standard h)

end shapes

end RecordFormula
