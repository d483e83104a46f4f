import RecordFormula.Digest.Sha256
import RecordFormula.Json.Basic

/-!
# Kinds of enrichment

What a record can be enriched with, and how a request is addressed.

* `Enrichment.Kind` — the kinds, with their names and paths;
* `Enrichment.keyText`, `Enrichment.key` — the cache key of a request.
-/

namespace RecordFormula

namespace Enrichment

/-- What is asked for. -/
inductive Kind where
  /-- Facts about a company. -/
  | companyInfo
  /-- The likely address of a person. -/
  | emailCompletion
  /-- The likely telephone number of a person. -/
  | phoneCompletion
  /-- How promising a record is. -/
  | leadScore
deriving DecidableEq, Repr

/-- The name of a kind. -/
def Kind.name : Kind → String
  | .companyInfo => "company_info"
  | .emailCompletion => "email_completion"
  | .phoneCompletion => "phone_completion"
  | .leadScore => "lead_score"

/-- The kind of a name. -/
def Kind.ofName? (name : String) : Option Kind :=
  [Kind.companyInfo, .emailCompletion, .phoneCompletion, .leadScore].find? (·.name == name)

/-- The last part of the address that answers requests of a kind. -/
def Kind.endpoint : Kind → String
  | .companyInfo => "company"
  | .emailCompletion => "email"
  | .phoneCompletion => "phone"
  | .leadScore => "lead-score"

/-- The address that answers requests of a kind; slashes at the end of the base do not count. -/
def Kind.url (base : String) (kind : Kind) : String :=
  String.ofList ((base.toList.reverse.dropWhile (· == '/')).reverse) ++ "/" ++ kind.endpoint

/-- The text that identifies a request. -/
def keyText (kind : Kind) (input : Json) : String := kind.name ++ ":" ++ input.compact

/-- The cache key of a request: the first half of the digest of its text. -/
def key (kind : Kind) (input : Json) : String :=
  Sha256.hex ((Sha256.digest (keyText kind input).toUTF8.data.toList).take 16)

end Enrichment

end RecordFormula
