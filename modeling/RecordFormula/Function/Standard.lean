import RecordFormula.Function.Aggregates
import RecordFormula.Function.Conditions
import RecordFormula.Function.Dates
import RecordFormula.Function.Leads
import RecordFormula.Function.Texts
import RecordFormula.Registry

/-!
# The functions of every formula

* `Registry.builtins` — the functions that never ask for an answer from outside;
* `Registry.standard` — these and the functions about leads.
-/

namespace RecordFormula

open Enrichment (Session)

namespace Function

/-- A function of the moment that the clock shows, in milliseconds since the start of 1970. -/
def ofClock (f : Int → Value) : Function :=
  ⟨false, fun _ _ => ExceptT.lift (f <$> (Session.now : Session Int))⟩

/-- Functions of numbers. -/
def aggregates : List (String × Function) :=
  [("SUM", .pure Aggregates.sum), ("AVG", .pure Aggregates.average),
    ("COUNT", .pure Aggregates.count), ("MIN", .pure Aggregates.least),
    ("MAX", .pure Aggregates.greatest), ("ROUND", .pure Aggregates.round),
    ("ABS", .pure Aggregates.absolute)]

/-- Functions of texts. -/
def texts : List (String × Function) :=
  [("CONCAT", .pure Texts.join), ("UPPER", .pure Texts.upper), ("LOWER", .pure Texts.lower),
    ("TRIM", .pure Texts.trim), ("LEN", .pure Texts.length), ("LEFT", .pure Texts.left),
    ("RIGHT", .pure Texts.right), ("MID", .pure Texts.middle), ("REPLACE", .ofExcept Texts.replace)]

/-- Functions of truth values. -/
def conditions : List (String × Function) :=
  [("IF", .pure Conditions.choose), ("AND", .pure Conditions.all), ("OR", .pure Conditions.any),
    ("NOT", .pure Conditions.not), ("ISEMPTY", .pure Conditions.isEmpty),
    ("ISNUMBER", .pure Conditions.isNumber), ("COALESCE", .pure Conditions.firstPresent)]

/-- Functions of dates. -/
def dates : List (String × Function) :=
  [("NOW", .ofClock Dates.timestamp), ("TODAY", .ofClock Dates.today), ("YEAR", .pure Dates.year),
    ("MONTH", .pure Dates.month), ("DAY", .pure Dates.day), ("DATEADD", .pure Dates.shift),
    ("DATEDIFF", .pure Dates.difference)]

/-- Functions about leads. -/
def leads : List (String × Function) :=
  [("AI_DETECT_COMPANY", .asking Leads.companyIndustry),
    ("AI_COMPANY_SIZE", .asking Leads.companySize), ("AI_COMPLETE_EMAIL", .asking Leads.email),
    ("AI_COMPLETE_PHONE", .asking Leads.phone), ("AI_LEAD_SCORE", .asking Leads.score),
    ("AI_EXTRACT_DOMAIN", .pureDeferred Leads.extractDomain),
    ("AI_CLEAN_PHONE", .pureDeferred Leads.dialled),
    ("AI_FORMAT_NAME", .pureDeferred Leads.personName),
    ("AI_PREDICT_INDUSTRY", .pureDeferred Leads.industry),
    ("AI_SENTIMENT", .pureDeferred Leads.sentiment)]

end Function

namespace Registry

/-- The functions that never ask for an answer from outside. -/
def builtins : Registry :=
  Registry.ofList (Function.aggregates ++ Function.texts ++ Function.conditions ++ Function.dates)

/-- The functions of every formula. -/
def standard : Registry := builtins.registerAll Function.leads

end Registry

end RecordFormula
