import RecordFormula.Enrichment.Kind

/-!
# Answers

The four types of answers, one for each kind of request. An answer is a record of named parts; in
JSON it is an object, in which unknown names do not matter and missing ones have a default, or an
array of its parts in order, of which the last ones may be missing.

* `Enrichment.Answer` — what the service needs to know about a type of answers;
* `CompanyProfile`, `EmailSuggestion`, `PhoneSuggestion`, `LeadScore` — the types;
* `Kind.Result` — the type that answers a kind of request.
-/

namespace RecordFormula

namespace Enrichment

/-- A type of answers. -/
class Answer (α : Type) where
  /-- The kind of request that they answer. -/
  kind : Kind
  /-- The answer when there is none. -/
  fallback : α
  /-- The answer in a JSON document. -/
  decode? : Json → Option α
  /-- The JSON document of an answer. -/
  encode : α → Json
  /-- The answer brought into range. -/
  normalize : α → α

/-- A text in a JSON document. -/
def decodeText? : Json → Option String
  | .text s => some s
  | _ => none

/-- A text or nothing in a JSON document. -/
def decodeOptionalText? : Json → Option (Option String)
  | .null => some none
  | .text s => some (some s)
  | _ => none

/-- A number in a JSON document. -/
def decodeNumber? : Json → Option Float
  | .integer n => some (Float.ofInt n)
  | .real x => some x
  | _ => none

/-- The JSON document of a number. -/
def encodeNumber (x : Float) : Json := if Number.isFinite x then .real x else .null

/-- The JSON document of a text or nothing. -/
def encodeOptionalText : Option String → Json
  | some s => .text s
  | none => .null

/-- The part of an answer that a JSON document gives, or its default where the document gives
none. -/
def part? {α : Type} (decode? : Json → Option α) (default : α) : Option Json → Option α
  | none => some default
  | some j => decode? j

/-- The parts of an answer that a JSON document gives under the names: an object by name, an array
of no more parts than that by position. -/
def parts? (names : List String) : Json → Option (List (Option Json))
  | .object members => some (names.map fun name => Members.find? name members)
  | .array items =>
    if items.length ≤ names.length then
      some (items.map some ++ List.replicate (names.length - items.length) none)
    else none
  | _ => none

/-- Facts about a company. -/
structure CompanyProfile where
  /-- What it does. -/
  industry : String
  /-- How large it is. -/
  size : String
  /-- How sure the answer is. -/
  confidence : Float

/-- The likely address of a person. -/
structure EmailSuggestion where
  /-- The address. -/
  email : Option String
  /-- How sure the answer is. -/
  confidence : Float

/-- The likely telephone number of a person. -/
structure PhoneSuggestion where
  /-- The number. -/
  phone : Option String

/-- How promising a record is. -/
structure LeadScore where
  /-- A whole number from 0 to 100. -/
  score : Float

instance : Answer CompanyProfile where
  kind := .companyInfo
  fallback := ⟨"Unknown", "Unknown", 0.0⟩
  decode? j :=
    match parts? ["industry", "size", "confidence"] j with
    | some [industry, size, confidence] => do
      some ⟨← part? decodeText? "" industry, ← part? decodeText? "" size,
        ← part? decodeNumber? 0.0 confidence⟩
    | _ => none
  encode p :=
    .object [("confidence", encodeNumber p.confidence), ("industry", .text p.industry),
      ("size", .text p.size)]
  normalize p := p

instance : Answer EmailSuggestion where
  kind := .emailCompletion
  fallback := ⟨none, 0.0⟩
  decode? j :=
    match parts? ["email", "confidence"] j with
    | some [email, confidence] => do
      some ⟨← part? decodeOptionalText? none email, ← part? decodeNumber? 0.0 confidence⟩
    | _ => none
  encode s :=
    .object [("confidence", encodeNumber s.confidence), ("email", encodeOptionalText s.email)]
  normalize s := s

instance : Answer PhoneSuggestion where
  kind := .phoneCompletion
  fallback := ⟨none⟩
  decode? j :=
    match parts? ["phone"] j with
    | some [phone] => do some ⟨← part? decodeOptionalText? none phone⟩
    | _ => none
  encode s := .object [("phone", encodeOptionalText s.phone)]
  normalize s := s

/-- The nearest whole number from 0 to 100; not-a-number counts as zero. -/
def clampScore (x : Float) : Float :=
  if Number.isNaN x then 0.0
  else
    let r := Number.round x
    if r < 0.0 then 0.0 else if 100.0 < r then 100.0 else r

instance : Answer LeadScore where
  kind := .leadScore
  fallback := ⟨0.0⟩
  decode? j :=
    match parts? ["score"] j with
    | some [score] => do some ⟨← part? decodeNumber? 0.0 score⟩
    | _ => none
  encode s := .object [("score", encodeNumber s.score)]
  normalize s := ⟨clampScore s.score⟩

/-- The type of the answers to requests of a kind. -/
def Kind.Result : Kind → Type
  | .companyInfo => CompanyProfile
  | .emailCompletion => EmailSuggestion
  | .phoneCompletion => PhoneSuggestion
  | .leadScore => LeadScore

instance : (kind : Kind) → Answer kind.Result
  | .companyInfo => inferInstanceAs (Answer CompanyProfile)
  | .emailCompletion => inferInstanceAs (Answer EmailSuggestion)
  | .phoneCompletion => inferInstanceAs (Answer PhoneSuggestion)
  | .leadScore => inferInstanceAs (Answer LeadScore)

end Enrichment

end RecordFormula
