import SupplyCatalog.Currency
import SupplyCatalog.Json.Basic
import SupplyCatalog.Number.DecimalText
import SupplyCatalog.Text.Base64
import SupplyCatalog.Url.Basic

/-!
# Values of payload fields

One reader for each kind of value that a field of a request may hold. A reader looks at a single
value that is not null, and gives what it stands for or the rule that it breaks.
-/

namespace SupplyCatalog.Value

def plainText : Json → Checked String
  | .string value => .ok (Text.trim value)
  | .number value => .ok value.text
  | .bool value => .ok (if value then "true" else "false")
  | _ => .error .notAString

/-- Text without blanks at its ends. Numbers and booleans count as the text they are written as. -/
def text (limit : Nat) (allowBlank : Bool) (value : Json) : Checked String := do
  let read ← plainText value
  if read = "" && !allowBlank then .error .blank
  else
    Check.maxLength limit read
    return read

def address (schemes : List UrlScheme) (limit : Nat) (value : Json) : Checked String := do
  let read ← text limit true value
  if read = "" || Url.isAddress schemes read then .ok read else .error .badUrl

def email (limit : Nat) (value : Json) : Checked String := do
  let read ← text limit true value
  if read = "" then .ok read
  else
    Check.email read
    return read

def trueWords : List String := ["true", "1", "yes", "y", "on"]

def falseWords : List String := ["false", "0", "no", "n", "off"]

def boolean : Json → Checked Bool
  | .bool value => .ok value
  | .number (.whole 1) => .ok true
  | .number (.whole 0) => .ok false
  | .string value =>
      let word := Text.lower (Text.trim value)
      if trueWords.contains word then .ok true
      else if falseWords.contains word then .ok false
      else .error .notABoolean
  | _ => .error .notABoolean

def decimalText : Json → Checked String
  | .number value => .ok value.text
  | .string value => .ok (Text.trim value)
  | _ => .error .notADecimal

def plainDecimal (value : Json) : Checked Decimal := do
  match Decimal.read? (← decimalText value) with
  | some number => .ok number
  | none => .error .notADecimal

/-- A number of at most `limit` digits, of which at most `places` after the point. -/
def decimal (limit places : Nat) (value : Json) : Checked Decimal := do
  let number ← plainDecimal value
  Check.precision limit places number
  return number

def decimalAtLeast (least : Decimal) (limit places : Nat) (value : Json) : Checked Decimal := do
  let number ← decimal limit places value
  Check.minValue least number
  return number

/-- The key of a row: a whole number of 64 bits, or text that is one. -/
def pk : Json → Checked Int
  | .number value => match value.int64? with
      | some pk => .ok pk
      | none => .error .notAnInteger
  | .string value => match Number.readInt64? (Text.trimChars value.toList) with
      | some pk => .ok pk
      | none => .error .notAnInteger
  | _ => .error .notAnInteger

/-- A code of the table, written as it stands there. -/
def currency (table : CurrencyTable) : Json → Checked String
  | .string code => table.validate code
  | _ => .error .notAString

/-- The bytes of an uploaded file, in base64. -/
def fileContent : Json → Checked (List UInt8)
  | .string value => match Text.Base64.decode? (Text.trimChars value.toList) with
      | some bytes => .ok bytes
      | none => .error (.rule "Invalid base64 file content")
  | _ => .error .notAString

/-- Whether a value counts as given where blanks, false and zero mean that it is not. -/
def isGiven : Option Json → Bool
  | none => false
  | some .null => false
  | some (.bool value) => value
  | some (.string value) => Text.trim value != ""
  | some (.number value) => !value.isZero
  | some _ => true

end SupplyCatalog.Value
