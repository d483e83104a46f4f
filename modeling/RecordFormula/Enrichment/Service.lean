import RecordFormula.Enrichment.Answer
import RecordFormula.Enrichment.Session
import RecordFormula.Text.Blank

/-!
# The enrichment service

A request is answered from the cache if it can be, else by the provider. Where neither has an answer
that makes sense, there is a fallback, which is not remembered.

* `Enrichment.enrich` — one request, `Enrichment.consult` — a request if there is anything to ask;
* `Enrichment.companyInput?`, `Enrichment.emailInput?`, `Enrichment.phoneInput?`,
  `Enrichment.scoreInput?` — what the requests of the four kinds ask about;
* `Enrichment.companyInfo`, `Enrichment.completeEmail`, `Enrichment.completePhone`,
  `Enrichment.leadScore` — the requests of the four kinds.
-/

namespace RecordFormula

namespace Enrichment

/-- An answer, and whether it comes from the cache. -/
structure Enriched (α : Type) where
  /-- The answer. -/
  value : α
  /-- Does it come from the cache? -/
  cached : Bool

/-- The answer when there is none. -/
def Enriched.fallback {α : Type} [Answer α] : Enriched α := ⟨Answer.fallback, false⟩

/-- The answer of the provider, which is remembered. -/
def fetch {α : Type} [Answer α] (key : String) (input : Json) : Session (Enriched α) := do
  let answer : Option α := (← Session.ask (Answer.kind α) input).bind Answer.decode?
  match answer with
  | none => return Enriched.fallback
  | some a =>
    let a := Answer.normalize a
    Session.remember ⟨key, Answer.kind α, input, Answer.encode a, 0⟩ (← read).ttl
    return ⟨a, false⟩

/-- Answers a request, from the cache if possible. -/
def enrich (α : Type) [Answer α] (input : Json) : Session (Enriched α) := do
  let key := Enrichment.key (Answer.kind α) input
  let known : Option α := (← Session.cached? key).bind fun e => Answer.decode? e.result
  match known with
  | some a => return ⟨Answer.normalize a, true⟩
  | none => fetch key input

/-- Answers a request, if there is anything to ask about. -/
def consult (α : Type) [Answer α] : Option Json → Session (Enriched α)
  | none => return Enriched.fallback
  | some input => enrich α input

/-- What is asked about a company. A blank name is not asked about. -/
def companyInput? (name : String) : Option Json :=
  if Text.isBlankText name then none else some (.object [("name", .text (Text.trim name))])

/-- What is asked about the address of a person. All three parts are needed. -/
def emailInput? (first last domain : String) : Option Json :=
  if [first, last, domain].any Text.isBlankText then none
  else
    some (.object [("domain", .text (Text.trim domain)), ("firstName", .text (Text.trim first)),
      ("lastName", .text (Text.trim last))])

/-- What is asked about the telephone number of a person. One part of the name is needed. -/
def phoneInput? (first last company : String) : Option Json :=
  if Text.isBlankText first && Text.isBlankText last then none
  else
    some (.object [("company", .text (Text.trim company)), ("firstName", .text (Text.trim first)),
      ("lastName", .text (Text.trim last))])

/-- What is asked about a record. A record without fields is not asked about. -/
def scoreInput? : Json → Option Json
  | .null => none
  | .object [] => none
  | record => some (.object [("record", record)])

/-- What is known about a company. -/
def companyInfo (name : String) : Session (Enriched CompanyProfile) :=
  consult CompanyProfile (companyInput? name)

/-- The likely address of a person. -/
def completeEmail (first last domain : String) : Session (Enriched EmailSuggestion) :=
  consult EmailSuggestion (emailInput? first last domain)

/-- The likely telephone number of a person. -/
def completePhone (first last company : String) : Session (Enriched PhoneSuggestion) :=
  consult PhoneSuggestion (phoneInput? first last company)

/-- How promising a record is. -/
def leadScore (record : Json) : Session (Enriched LeadScore) :=
  consult LeadScore (scoreInput? record)

end Enrichment

end RecordFormula
