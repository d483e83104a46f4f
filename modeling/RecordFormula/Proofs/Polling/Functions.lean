import RecordFormula.Function.Enquiries
import RecordFormula.Proofs.Registry

/-!
# Which functions wait

A standard function makes one enquiry, or it has its value at once.

* `Enquiry.perform` — an enquiry as a session, in one go.
* `Function.Local` — the functions that have their value at once.
* **A function that asks makes its enquiry and nothing else**
  (`StandardFunction.function_of_enquiry?`).
* **A function that asks nothing has its value at once** (`StandardFunction.isLocal`).
-/

namespace RecordFormula

open Enrichment

/-- An enquiry in one go. -/
def Enrichment.Enquiry.perform {α : Type} (q : Enquiry α) : Session α :=
  (fun result => q.use result.value) <$> consult q.kind.Result q.input?

/-- The function of the name has its value at once: it computes with its arguments, or it is `NOW`
or `TODAY` and looks at the clock. -/
inductive Function.Local (name : String) : Function → Prop
  /-- It computes. -/
  | computes (deferred : Bool) (g : List Value → Except EvalError Value) :
    Local name ⟨deferred, fun args _ => Evaluation.ofExcept (g args)⟩
  /-- It looks at the clock. -/
  | tells (hname : name = "NOW" ∨ name = "TODAY") (g : Int → Value) : Local name (.ofClock g)

namespace StandardFunction

/-- A standard function is found under its name. -/
theorem name_of_find? {name : String} {f : StandardFunction} (h : find? name = some f) :
    f.name = name := by
  unfold find? at h
  split at h
  · cases h
  · cases h
    rfl

/-- The standard functions are those of the registry. -/
theorem function_of_find? (name : String) :
    (find? name).map function = Registry.standard.find? name := by
  unfold find?
  split <;> simp [*]

/-- The functions that ask are standard functions. -/
theorem mem_standard_of_mem_enquiries {p : String × (List Value → Record → Enquiry Value)}
    (hp : p ∈ enquiries) :
    (p.1, Function.asking fun args record => (p.2 args record).perform) ∈ Function.standard := by
  refine List.mem_append_right _ ?_
  simp only [enquiries, List.mem_cons, List.not_mem_nil, or_false] at hp
  simp only [Function.leads, List.mem_cons]
  rcases hp with rfl | rfl | rfl | rfl | rfl
  · exact .inl rfl
  · exact .inr (.inl rfl)
  · exact .inr (.inr (.inl rfl))
  · exact .inr (.inr (.inr (.inl rfl)))
  · exact .inr (.inr (.inr (.inr (.inl rfl))))

/-- A standard function is found under its name. -/
theorem exists_find?_of_mem {name : String} {g : Function} (h : (name, g) ∈ Function.standard) :
    ∃ f, find? name = some f ∧ f.name = name ∧ f.function = g := by
  have hfound : (find? name).map function = some g := by
    rw [function_of_find?, Registry.find?_standard_of_mem h]
  obtain ⟨f, hf, hg⟩ := Option.map_eq_some_iff.mp hfound
  exact ⟨f, hf, name_of_find? hf, hg⟩

/-- The functions that ask are called by their names, and ask what they are said to. -/
theorem of_mem_enquiries {name : String} {enquiry : List Value → Record → Enquiry Value}
    (h : (name, enquiry) ∈ enquiries) :
    Text.upper name = name ∧ name ≠ "IF" ∧ enquiries.lookup name = some enquiry := by
  simp only [enquiries, List.mem_cons, List.not_mem_nil, or_false] at h
  rcases h with h | h | h | h | h <;> cases h <;>
    exact ⟨Text.upper_of_lt (by decide), by decide, rfl⟩

/-- **A function that asks makes its enquiry and nothing else.** -/
theorem function_of_enquiry? {f : StandardFunction} {enquiry : List Value → Record → Enquiry Value}
    (h : f.enquiry? = some enquiry) :
    f.function = .asking fun args record => (enquiry args record).perform := by
  have hmem : (Text.upper f.name, enquiry) ∈ enquiries := by
    obtain ⟨before, after, hsplit, -⟩ := List.lookup_eq_some_iff.mp h
    rw [hsplit]
    simp
  have hfound := Registry.find?_standard_of_mem (mem_standard_of_mem_enquiries hmem)
  rw [Registry.find?_upper, f.found] at hfound
  exact Option.some.inj hfound

/-- A standard function that asks nothing has its value at once. -/
theorem local_of_mem {p : String × Function} (hp : p ∈ Function.standard)
    (hq : enquiries.lookup p.1 = none) : p.2.Local p.1 := by
  have hpure : ∀ (name : String) (g : List Value → Value), (Function.pure g).Local name :=
    fun name g => .computes false fun args => .ok (g args)
  have hdeferred : ∀ (name : String) (g : List Value → Value),
      (Function.pureDeferred g).Local name :=
    fun name g => .computes true fun args => .ok (g args)
  simp only [Function.standard, List.mem_append] at hp
  rcases hp with (((hp | hp) | hp) | hp) | hp
  · simp only [Function.aggregates, List.mem_cons, List.not_mem_nil, or_false] at hp
    rcases hp with rfl | rfl | rfl | rfl | rfl | rfl | rfl <;> exact hpure _ _
  · simp only [Function.texts, List.mem_cons, List.not_mem_nil, or_false] at hp
    rcases hp with rfl | rfl | rfl | rfl | rfl | rfl | rfl | rfl | rfl
    all_goals first | exact hpure _ _ | exact .computes false Texts.replace
  · simp only [Function.conditions, List.mem_cons, List.not_mem_nil, or_false] at hp
    rcases hp with rfl | rfl | rfl | rfl | rfl | rfl | rfl <;> exact hpure _ _
  · simp only [Function.dates, List.mem_cons, List.not_mem_nil, or_false] at hp
    rcases hp with rfl | rfl | rfl | rfl | rfl | rfl | rfl
    · exact .tells (.inl rfl) _
    · exact .tells (.inr rfl) _
    all_goals exact hpure _ _
  · simp only [Function.leads, List.mem_cons, List.not_mem_nil, or_false] at hp
    rcases hp with rfl | rfl | rfl | rfl | rfl | rfl | rfl | rfl | rfl | rfl
    all_goals first | exact hdeferred _ _ | cases hq

/-- **A function that asks nothing has its value at once.** -/
theorem isLocal {f : StandardFunction} (hq : f.enquiry? = none) :
    f.function.Local (Text.upper f.name) :=
  local_of_mem (Registry.mem_of_find?_standard f.found) hq

end StandardFunction

end RecordFormula
