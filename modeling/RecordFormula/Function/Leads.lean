import RecordFormula.Enrichment.Service
import RecordFormula.Function.Arguments
import RecordFormula.Pattern.Replacement
import RecordFormula.Text.Case

/-!
# Leads

Functions about people and companies. Some ask the enrichment service; where it has no answer they
return what it falls back to. The others look at their argument alone.

* `Leads.companyIndustry`, `Leads.companySize`, `Leads.email`, `Leads.phone`, `Leads.score` — the
  enriched values;
* `Leads.mailPattern`, `Leads.mailDomain?` — what mail addresses look like, and the domain of one;
* `Leads.dialled`, `Leads.personName` — tidy telephone numbers and names;
* `Leads.industry`, `Leads.sentiment` — what the words of a text are about.
-/

namespace RecordFormula

namespace Leads

open Enrichment (Session)

/-! ## Enriched values -/

/-- What the company with the given name does. -/
def companyIndustry (args : List Value) (_ : Record) : Session Value := do
  return .text (← Enrichment.companyInfo (Arguments.text args 0)).value.industry

/-- How large the company with the given name is. -/
def companySize (args : List Value) (_ : Record) : Session Value := do
  return .text (← Enrichment.companyInfo (Arguments.text args 0)).value.size

/-- A text, or null if there is none. -/
def orNull : Option String → Value
  | some s => .text s
  | none => .null

/-- The address of the person with the given first name, last name and domain. -/
def email (args : List Value) (_ : Record) : Session Value := do
  return orNull (← Enrichment.completeEmail (Arguments.text args 0) (Arguments.text args 1)
    (Arguments.text args 2)).value.email

/-- The telephone number of the person with the given first name, last name and company. -/
def phone (args : List Value) (_ : Record) : Session Value := do
  return orNull (← Enrichment.completePhone (Arguments.text args 0) (Arguments.text args 1)
    (Arguments.text args 2)).value.phone

/-- What is scored: the first argument, or the whole record if there is none or it is null. -/
def scored (args : List Value) (record : Record) : Json :=
  match Arguments.value args 0 with
  | .null => (Value.object record).toJson
  | v => v.toJson

/-- How promising the argument, or else the record, is. -/
def score (args : List Value) (record : Record) : Session Value := do
  return .number (← Enrichment.leadScore (scored args record)).value.score

/-! ## Addresses, numbers and names -/

/-- What a mail address looks like. Its domain is the only group: it has a dot with something before
it and behind it, and no dot at its start. -/
def mailPattern : String := "^[^\\s@]+@([^\\s@.][^\\s@]*\\.[^\\s@.]+)$"

/-- The matcher of mail addresses. -/
def mailMatcher? : Option Pattern.Matcher :=
  (Pattern.ofChars? mailPattern.toList).bind Pattern.Matcher.ofPattern?

/-- The domain of a mail address. -/
def mailDomain? (cs : List Char) : Option (List Char) :=
  mailMatcher?.bind fun matcher => matcher.captured? cs 1

/-- The domain of the argument in lowercase, if it is a mail address. -/
def extractDomain (args : List Value) : Value :=
  orNull ((mailDomain? (Text.trim (Arguments.text args 0)).toList).map fun cs =>
    Text.lower (String.ofList cs))

/-- Can the character be dialled? -/
def isDialled (c : Char) : Bool := ('0' ≤ c && c ≤ '9') || c == '+'

/-- The argument without anything that cannot be dialled. -/
def dialled (args : List Value) : Value :=
  .text (String.ofList ((Arguments.text args 0).toList.filter isDialled))

/-- Does the character continue a word of a name? -/
def continuesWord (c : Char) : Bool := Letter.isAlphanumeric c || c == '_'

/-- The characters of a name with a capital at the start of every word, all else in lowercase. -/
def capitalize (atStart : Bool) : List Char → List Char
  | [] => []
  | c :: rest =>
    (if atStart then Casing.upper c else Casing.lower c) ++ capitalize (!continuesWord c) rest

/-- The argument as a name. -/
def personName (args : List Value) : Value :=
  .text (String.ofList (capitalize true (Text.trim (Arguments.text args 0)).toList))

/-! ## Words -/

/-- The runs of characters that have the property. -/
def runs (p : Char → Bool) (cs : List Char) : List (List Char) :=
  match h : cs.dropWhile fun c => !p c with
  | [] => []
  | c :: rest =>
    have : (rest.dropWhile p).length < cs.length := by
      have h₁ := (List.dropWhile_suffix (l := cs) fun c => !p c).length_le
      have h₂ := (List.dropWhile_suffix (l := rest) p).length_le
      rw [h] at h₁
      simp only [List.length_cons] at h₁
      omega
    (c :: rest.takeWhile p) :: runs p (rest.dropWhile p)
termination_by cs.length

/-- The words of a text in lowercase. -/
def words (s : String) : List String :=
  (runs Letter.isAlphanumeric s.toList).map fun cs => Text.lower (String.ofList cs)

/-- How many of the words are in the list. -/
def hits (list words : List String) : Nat := (words.filter fun w => list.contains w).length

/-- Industries and the words that speak of them. -/
def industries : List (String × List String) :=
  [("Technology",
      ["software", "saas", "cloud", "technology", "tech", "platform", "app", "apps", "data", "ai",
        "cybersecurity", "developer", "developers", "internet"]),
    ("Healthcare",
      ["health", "healthcare", "medical", "hospital", "clinic", "pharma", "pharmaceutical",
        "biotech", "patient", "patients"]),
    ("Finance",
      ["bank", "banking", "finance", "financial", "fintech", "insurance", "investment",
        "investments", "payments", "lending", "accounting"]),
    ("Retail",
      ["retail", "ecommerce", "store", "stores", "shop", "shopping", "consumer", "fashion"]),
    ("Manufacturing",
      ["manufacturing", "factory", "industrial", "machinery", "production", "automotive"]),
    ("Education",
      ["education", "school", "university", "learning", "training", "edtech", "students"]),
    ("Real Estate", ["property", "properties", "realty", "housing", "rental", "rentals"]),
    ("Consulting", ["consulting", "consultancy", "advisory", "agency"])]

/-- The industry with the most hits, the first of several; the given one if none has more. -/
def mostHits (words : List String) (best : String) (most : Nat) :
    List (String × List String) → String
  | [] => best
  | (industry, list) :: rest =>
    if most < hits list words then mostHits words industry (hits list words) rest
    else mostHits words best most rest

/-- The industry that the words of the argument speak of. -/
def industry (args : List Value) : Value :=
  .text (mostHits (words (Arguments.text args 0)) "Other" 0 industries)

/-- Words of praise. -/
def praise : List String :=
  ["good", "great", "excellent", "amazing", "awesome", "fantastic", "wonderful", "happy", "love",
    "pleased", "satisfied", "interested", "positive", "thanks", "helpful"]

/-- Words of complaint. -/
def complaint : List String :=
  ["bad", "poor", "terrible", "awful", "worst", "hate", "angry", "unhappy", "disappointed",
    "negative", "problem", "issue", "complaint", "cancel", "broken"]

/-- Whether the argument has more words of praise, or of complaint. -/
def sentiment (args : List Value) : Value :=
  let ws := words (Arguments.text args 0)
  .text
    (if hits complaint ws < hits praise ws then "positive"
      else if hits praise ws < hits complaint ws then "negative"
      else "neutral")

end Leads

end RecordFormula
