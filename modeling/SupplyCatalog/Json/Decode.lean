import SupplyCatalog.Json.Basic
import SupplyCatalog.Number.DecimalText
import SupplyCatalog.Text.Hexadecimal
import SupplyCatalog.Time.Instant

/-!
# Decoding JSON

Readers that turn a JSON value into a value of one kind, or say what was expected. A field that is
absent and one that is null are alike: both leave room for a fallback.
-/

namespace SupplyCatalog.Json

abbrev Decoded (α : Type) := Except String α

namespace Decode

def present? (value : Json) (key : String) : Option Json :=
  match value.field? key with
  | some .null => none
  | found => found

def need (value : Json) (key : String) : Decoded Json :=
  match value.field? key with
  | some found => .ok found
  | none => .error ("expected a field " ++ key)

def orExpected {α : Type} (kind : String) : Option α → Decoded α
  | some value => .ok value
  | none => .error ("expected " ++ kind)

def text (value : Json) : Decoded String := orExpected "text" value.string?

def int (value : Json) : Decoded Int := orExpected "an integer" value.int64?

def bool (value : Json) : Decoded Bool := orExpected "a boolean" value.bool?

def items (value : Json) : Decoded (List Json) := orExpected "an array" value.items?

def fields (value : Json) : Decoded (List (String × Json)) :=
  orExpected "an object" value.fields?

def real : Json → Decoded Float
  | .number (.real value) => .ok value
  | .number (.whole value) => .ok (Float.ofInt value)
  | _ => .error "expected a number"

def nat : Json → Decoded Nat
  | .number (.whole (.ofNat value)) => .ok value
  | _ => .error "expected a natural number"

def decimal (value : Json) : Decoded Decimal := do
  orExpected "a decimal" (Decimal.read? (← text value))

def instant (value : Json) : Decoded Instant := do
  orExpected "an instant" (Instant.read? (← text value))

def date (value : Json) : Decoded Date := do
  orExpected "a date" (Date.read? (← text value))

def bytes (value : Json) : Decoded (List UInt8) := do
  orExpected "hexadecimal digits" (Text.bytesOfHex? (← text value).toList)

def list {α : Type} (read : Json → Decoded α) (value : Json) : Decoded (List α) := do
  (← items value).mapM read

def optional {α : Type} (read : Json → Decoded α) (value : Json) (key : String) :
    Decoded (Option α) :=
  match present? value key with
  | some found => (read found).map some
  | none => .ok none

def orElse {α : Type} (read : Json → Decoded α) (fallback : α) (value : Json) (key : String) :
    Decoded α :=
  return (← optional read value key).getD fallback

def textField (value : Json) (key : String) : Decoded String := orElse text "" value key

def keyField (value : Json) (key : String) : Decoded Int := orElse int 1 value key

def flagField (fallback : Bool) (value : Json) (key : String) : Decoded Bool :=
  orElse bool fallback value key

end Decode

/-! ## Encoding -/

def strings (texts : List String) : Json := array (texts.map string)

def orNull {α : Type} (shown : α → Json) : Option α → Json
  | some value => shown value
  | none => null

def given {α : Type} (key : String) (shown : α → Json) : Option α → List (String × Json)
  | some value => [(key, shown value)]
  | none => []

end SupplyCatalog.Json
