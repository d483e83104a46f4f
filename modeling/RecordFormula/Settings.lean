import RecordFormula.Decimal.Reading
import RecordFormula.Text.Blank

/-!
# Settings

How formulas are evaluated where they can ask for answers from outside. Settings are read from named
variables; one that is not set or blank leaves the default.

* `Settings`, `Settings.standard` — the settings and their defaults;
* `Settings.read` — the settings that variables give;
* `SettingsError` — a variable that does not hold a number.
-/

namespace RecordFormula

/-- How formulas are evaluated. -/
structure Settings where
  /-- The address of the enrichment provider; without it there is none. -/
  providerUrl : Option String
  /-- The key that the provider asks for. -/
  apiKey : Option String
  /-- How long answers count, in seconds. -/
  cacheTtl : Nat
  /-- How long to wait for an answer, in seconds. -/
  providerTimeout : Nat
  /-- How many answers are kept. -/
  cacheCapacity : Nat
deriving DecidableEq, Repr

/-- A variable that does not hold a number. -/
structure SettingsError where
  /-- The variable. -/
  variableName : String
  /-- What it holds. -/
  value : String
deriving DecidableEq, Repr

/-- The text of an error. -/
def SettingsError.message (e : SettingsError) : String :=
  "Environment variable " ++ e.variableName ++ " has invalid value '" ++ e.value ++ "'"

namespace Settings

/-- The settings without any variable: no provider, answers that count for a day, a wait of ten
seconds, ten thousand answers. -/
def standard : Settings := ⟨none, none, 86400, 10, 10000⟩

/-- The number that a text spells: digits, perhaps after a plus sign, of a number that fits 64
bits. -/
def readCount? (s : String) : Option Nat :=
  let ds := match s.toList with
    | '+' :: ds => ds
    | ds => ds
  if !ds.isEmpty && ds.all Decimal.isDigit && Decimal.ofDigits ds < Decimal.wordLimit then
    some (Decimal.ofDigits ds)
  else none

/-- The number that a variable gives, if it is set. -/
def count (given : String → Option String) (name : String) (default : Nat) :
    Except SettingsError Nat :=
  match given name with
  | none => .ok default
  | some value =>
    match readCount? (Text.trim value) with
    | some n => .ok n
    | none => .error ⟨name, value⟩

/-- The settings that variables give. -/
def read (given : String → Option String) : Except SettingsError Settings := do
  let known := fun name => (given name).filter fun value => !Text.isBlankText value
  let ttl ← count known "CALCFIELD_CACHE_TTL_SECS" standard.cacheTtl
  let timeout ← count known "CALCFIELD_PROVIDER_TIMEOUT_SECS" standard.providerTimeout
  let capacity ← count known "CALCFIELD_CACHE_CAPACITY" standard.cacheCapacity
  return ⟨known "CALCFIELD_PROVIDER_URL", known "CALCFIELD_API_KEY", ttl, timeout, capacity⟩

/-- The settings with another provider and its key. -/
def withProvider (s : Settings) (url : String) (key : Option String) : Settings :=
  { s with providerUrl := some url, apiKey := key }

end Settings

end RecordFormula
