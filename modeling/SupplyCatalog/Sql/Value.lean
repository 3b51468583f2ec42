import SupplyCatalog.Image
import SupplyCatalog.SupplierPart

/-!
# Values in SQL statements

A statement binds values of many types, each of which may be missing. The database knows five
kinds of argument, and `Argument.ofValue` says which one a value is passed as: numbers with a sign
and words of up to 32 bits as integers, and a missing value as null. A word of 64 bits has no
argument of its own and is passed as null.
-/

namespace SupplyCatalog.Sql

inductive Value
  | boolean (value : Option Bool)
  | int8 (value : Option Int)
  | int16 (value : Option Int)
  | int32 (value : Option Int)
  | int64 (value : Option Int)
  | word8 (value : Option Nat)
  | word16 (value : Option Nat)
  | word32 (value : Option Nat)
  | word64 (value : Option Nat)
  | single (value : Option Float32)
  | double (value : Option Float)
  | text (value : Option String)
  | character (value : Option Char)
  | bytes (value : Option Bytes)

inductive Argument
  | null
  | integer (value : Int)
  | real (value : Float)
  | text (value : String)
  | blob (value : Bytes)

namespace Argument

def ofValue : Value → Argument
  | .boolean (some value) => integer (if value then 1 else 0)
  | .int8 (some value) => integer value
  | .int16 (some value) => integer value
  | .int32 (some value) => integer value
  | .int64 (some value) => integer value
  | .word8 (some value) => integer value
  | .word16 (some value) => integer value
  | .word32 (some value) => integer value
  | .single (some value) => real value.toFloat
  | .double (some value) => real value
  | .text (some value) => text value
  | .character (some value) => text value.toString
  | .bytes (some value) => blob value
  | _ => null

end Argument

namespace Value

def ofBool (value : Bool) : Value := boolean (some value)

def ofKey (key : Int) : Value := int64 (some key)

def ofText (value : String) : Value := text (some value)

/-- Decimals are kept as the text of their shortest form, so that equal numbers have equal texts. -/
def ofDecimal (value : Decimal) : Value := ofText value.normalize.toText

def ofOptionalDecimal (value : Option Decimal) : Value :=
  text (value.map fun decimal => decimal.normalize.toText)

def ofOptionalInstant (value : Option Instant) : Value := text (value.map Instant.toOffsetText)

end Value

end SupplyCatalog.Sql
