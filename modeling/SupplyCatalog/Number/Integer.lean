import SupplyCatalog.Text.AsciiCase

/-!
# Whole numbers in text

Readers for decimal digits with an optional sign, each with the range of the numbers it admits.
No blank, separator or other base is accepted.
-/

namespace SupplyCatalog.Number

def digitValue (c : Char) : Nat := c.toNat - 48

def ofDigits (digits : List Char) : Nat :=
  digits.foldl (fun number c => 10 * number + digitValue c) 0

def readDigits? (digits : List Char) : Option Nat :=
  if digits.isEmpty || !digits.all Text.isDigit then none else some (ofDigits digits)

/-- Digits after an optional plus sign, for a number of at most `greatest`. -/
def readUpTo? (greatest : Nat) (chars : List Char) : Option Nat := do
  let number ← readDigits? (match chars with | '+' :: rest => rest | _ => chars)
  if number ≤ greatest then some number else none

def greatestWord : Nat := 0xFFFFFFFFFFFFFFFF

def leastInt64 : Int := -0x8000000000000000
def greatestInt64 : Int := 0x7FFFFFFFFFFFFFFF

def fitsInt64 (number : Int) : Bool := leastInt64 ≤ number && number ≤ greatestInt64

/-- Digits after an optional sign, for a number of 64 bits. -/
def readInt64? (chars : List Char) : Option Int := do
  let number : Int ← match chars with
    | '-' :: rest => (readDigits? rest).map fun n => -(n : Int)
    | '+' :: rest => (readDigits? rest).map Int.ofNat
    | _ => (readDigits? chars).map Int.ofNat
  if fitsInt64 number then some number else none

end SupplyCatalog.Number
