import SupplyCatalog.Violation
import SupplyCatalog.Text.AsciiCase

/-!
# Currencies

Every sum of money names a currency by a code of three letters. A table holds the codes that a
service admits, each once, and the one used when none is given.
-/

namespace SupplyCatalog

structure CurrencyChoice where
  code : String
  name : String
deriving DecidableEq

namespace Currency

def knownNames : List (String × String) :=
  [("AUD", "Australian Dollar"), ("BRL", "Brazilian Real"), ("CAD", "Canadian Dollar"),
    ("CHF", "Swiss Franc"), ("CNY", "Chinese Yuan"), ("CZK", "Czech Koruna"),
    ("DKK", "Danish Krone"), ("EUR", "Euro"), ("GBP", "British Pound"),
    ("HKD", "Hong Kong Dollar"), ("INR", "Indian Rupee"), ("JPY", "Japanese Yen"),
    ("KRW", "South Korean Won"), ("MXN", "Mexican Peso"), ("NOK", "Norwegian Krone"),
    ("NZD", "New Zealand Dollar"), ("PLN", "Polish Zloty"), ("SEK", "Swedish Krona"),
    ("SGD", "Singapore Dollar"), ("TWD", "New Taiwan Dollar"), ("USD", "US Dollar"),
    ("ZAR", "South African Rand")]

def name? (code : String) : Option String :=
  (knownNames.find? fun entry => entry.1 == code).map (·.2)

/-- A code as it is kept: without blanks around it, in upper case. -/
def canonical (code : String) : String := Text.upper (Text.trim code)

def isCode (code : String) : Bool :=
  code.toList.length == 3 && code.toList.all Text.isLetter

end Currency

inductive CurrencyTableError
  | noCodes
  | notACode (code : String)
  | defaultNotListed (code : String)
deriving DecidableEq

def CurrencyTableError.message : CurrencyTableError → String
  | noCodes => "currency list is empty"
  | notACode code => "invalid currency code: " ++ code
  | defaultNotListed code => s!"default currency {code} is not in the configured list"

structure CurrencyTable where
  codes : List String
  defaultCode : String
deriving DecidableEq

namespace CurrencyTable

/-- The table of a service that is not configured. -/
def standard : CurrencyTable :=
  ⟨["AUD", "CAD", "CNY", "EUR", "GBP", "JPY", "NZD", "USD"], "USD"⟩

/-- Appends codes in their canonical form, each only once, up to the first that is not a code. -/
def collect (kept : List String) : List String → Except CurrencyTableError (List String)
  | [] => .ok kept
  | written :: rest =>
      let code := Currency.canonical written
      if Currency.isCode code then
        collect (if kept.contains code then kept else kept ++ [code]) rest
      else .error (.notACode code)

def ofCodes (codes : List String) (defaultCode : String) :
    Except CurrencyTableError CurrencyTable := do
  let kept ← collect [] codes
  if kept.isEmpty then .error .noCodes
  else
    let chosen := Currency.canonical defaultCode
    if kept.contains chosen then .ok ⟨kept, chosen⟩ else .error (.defaultNotListed chosen)

def contains (table : CurrencyTable) (code : String) : Bool := table.codes.contains code

/-- Accepts a code of the table as it stands there. -/
def validate (table : CurrencyTable) (code : String) : Checked String :=
  if table.contains code then .ok code else .error (.notAChoice code)

/-- All codes in order; one without a known name is its own name. -/
def choices (table : CurrencyTable) : List CurrencyChoice :=
  table.codes.map fun code => ⟨code, (Currency.name? code).getD code⟩

end CurrencyTable

end SupplyCatalog
