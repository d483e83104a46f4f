import RecordFormula.Enrichment.Polling
import RecordFormula.Function.Standard

/-!
# Functions that wait

The functions about leads that ask the enrichment service, as enquiries: what they ask, and what
value they make of the answer. All other functions have their value at once.

* `Enrichment.companyEnquiry` and the like — the requests of the service;
* `StandardFunction` — the standard functions, with their names;
* `StandardFunction.enquiry?` — what a function asks, if it asks anything.
-/

namespace RecordFormula

namespace Enrichment

/-- What is known about a company. -/
def companyEnquiry (name : String) : Enquiry CompanyProfile :=
  ⟨.companyInfo, companyInput? name, fun p => p⟩

/-- The likely address of a person. -/
def emailEnquiry (first last domain : String) : Enquiry EmailSuggestion :=
  ⟨.emailCompletion, emailInput? first last domain, fun s => s⟩

/-- The likely telephone number of a person. -/
def phoneEnquiry (first last company : String) : Enquiry PhoneSuggestion :=
  ⟨.phoneCompletion, phoneInput? first last company, fun s => s⟩

/-- How promising a record is. -/
def scoreEnquiry (record : Json) : Enquiry LeadScore :=
  ⟨.leadScore, scoreInput? record, fun s => s⟩

end Enrichment

/-- A standard function. -/
structure StandardFunction where
  /-- A name that it is called by. -/
  name : String
  /-- The function. -/
  function : Function
  /-- It is found under the name. -/
  found : Registry.standard.find? name = some function

namespace StandardFunction

open Enrichment

/-- The standard function of a name. -/
def find? (name : String) : Option StandardFunction :=
  match h : Registry.standard.find? name with
  | none => none
  | some f => some ⟨name, f, h⟩

/-- The functions that ask the service, with what they ask. -/
def enquiries : List (String × (List Value → Record → Enquiry Value)) :=
  [("AI_DETECT_COMPANY",
      fun args _ => (companyEnquiry (Arguments.text args 0)).map fun p => .text p.industry),
    ("AI_COMPANY_SIZE",
      fun args _ => (companyEnquiry (Arguments.text args 0)).map fun p => .text p.size),
    ("AI_COMPLETE_EMAIL",
      fun args _ => (emailEnquiry (Arguments.text args 0) (Arguments.text args 1)
        (Arguments.text args 2)).map fun s => Leads.orNull s.email),
    ("AI_COMPLETE_PHONE",
      fun args _ => (phoneEnquiry (Arguments.text args 0) (Arguments.text args 1)
        (Arguments.text args 2)).map fun s => Leads.orNull s.phone),
    ("AI_LEAD_SCORE",
      fun args record => (scoreEnquiry (Leads.scored args record)).map fun s => .number s.score)]

/-- What a function asks the service, if it asks anything. -/
def enquiry? (f : StandardFunction) : Option (List Value → Record → Enquiry Value) :=
  enquiries.lookup (Text.upper f.name)

end StandardFunction

end RecordFormula
