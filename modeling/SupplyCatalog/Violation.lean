import SupplyCatalog.Number.Decimal
import SupplyCatalog.Text.Blank
import SupplyCatalog.Text.Split

/-!
# Broken field rules

A violation names the input field that broke a rule and the cause; the wording of every cause is
in `Cause.message`. The checks that several kinds of record share follow: lengths, least values,
digits of a decimal, and the shape of an email address.
-/

namespace SupplyCatalog

inductive Cause
  | missing
  | null
  | blank
  | tooLong (limit : Nat)
  | notAChoice (value : String)
  | notADecimal
  | notAnInteger
  | notABoolean
  | notAString
  | badUrl
  | badEmail
  | belowMinimum (least : Decimal)
  | tooManyDigits (limit : Nat)
  | tooManyPlaces (limit : Nat)
  | noSuchRow (pk : Int)
  | rule (message : String)
deriving DecidableEq

namespace Cause

def message : Cause → String
  | missing => "This field is required."
  | null => "This field may not be null."
  | blank => "This field may not be blank."
  | tooLong limit => s!"Ensure this field has no more than {limit} characters."
  | notAChoice value => s!"\"{value}\" is not a valid choice."
  | notADecimal => "A valid number is required."
  | notAnInteger => "A valid integer is required."
  | notABoolean => "Must be a valid boolean."
  | notAString => "Not a valid string."
  | badUrl => "Enter a valid URL."
  | badEmail => "Enter a valid email address."
  | belowMinimum least => s!"Ensure this value is greater than or equal to {least.toText}."
  | tooManyDigits limit => s!"Ensure that there are no more than {limit} digits in total."
  | tooManyPlaces limit => s!"Ensure that there are no more than {limit} decimal places."
  | noSuchRow pk => s!"Invalid pk \"{pk}\" - object does not exist."
  | rule message => message

end Cause

structure Violation where
  field : String
  cause : Cause
deriving DecidableEq

def Violation.message (violation : Violation) : String := violation.cause.message

abbrev Checked (α : Type) := Except Cause α

namespace Check

def maxLength (limit : Nat) (value : String) : Checked Unit :=
  if limit < value.length then .error (.tooLong limit) else .ok ()

def minValue (least value : Decimal) : Checked Unit :=
  if value < least then .error (.belowMinimum least) else .ok ()

/-- At most `limit` digits, of which at most `places` after the point. The rule is about the
number: zeros at its end count for nothing, and a number below one counts its places as digits. -/
def precision (limit places : Nat) (value : Decimal) : Checked Unit :=
  let shortest := value.normalize
  if places < shortest.scale then .error (.tooManyPlaces places)
  else if limit < max shortest.digitCount shortest.scale then .error (.tooManyDigits limit)
  else .ok ()

def emailLimit : Nat := 254

/-- One `@`, something before it, and after it a domain with a point inside; no blanks, and no
more than 254 bytes. -/
def isEmail (value : String) : Bool :=
  match Text.splitFirst? (· == '@') value.toList with
  | none => false
  | some (localPart, domain) =>
      !localPart.isEmpty && !domain.contains '@' && domain.contains '.' &&
        value.utf8ByteSize ≤ emailLimit && domain.head? != some '.' &&
        domain.getLast? != some '.' && !value.toList.any Text.isBlank

def email (value : String) : Checked Unit :=
  if isEmail value then .ok () else .error .badEmail

end Check

end SupplyCatalog
