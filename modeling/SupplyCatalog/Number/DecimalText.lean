import SupplyCatalog.Number.Decimal
import SupplyCatalog.Number.Integer
import SupplyCatalog.Text.Split

/-!
# Reading decimals

Two notations are read: `readPlain?` takes an optional sign and digits with at most one point,
`readScientific?` takes such a text, the letter `e` and an exponent. A plain text with more
decimal places than a decimal can hold is rounded at the first digit that does not fit; a whole
part that does not fit is refused. A negative exponent that asks for more places than there are
rounds in the same way, to the last place of all.
-/

namespace SupplyCatalog.Decimal

open SupplyCatalog

/-- What has been read of a plain text: the magnitude and the scale so far, whether the point
has been passed, and whether there was a digit yet. -/
structure Reading where
  magnitude : Nat
  scale : Nat
  pointSeen : Bool
  digitSeen : Bool

/-- Rounds at a digit for which there is no room, a half going away from zero. When the rounded
magnitude itself no longer fits, one more place is given up. -/
def roundAt (negative : Bool) (reading : Reading) (next : Nat) : Option Decimal :=
  if next < 5 then ofParts? negative reading.magnitude reading.scale
  else if reading.magnitude + 1 < magnitudeLimit then
    ofParts? negative (reading.magnitude + 1) reading.scale
  else if reading.scale = 0 then none
  else ofParts? negative ((reading.magnitude + 5) / 10) (reading.scale - 1)

/-- Rounds at what follows the last place that fits: digits, with underscores among them. -/
def roundFrom (negative : Bool) (reading : Reading) (rest : List Char) : Option Decimal :=
  if rest.all fun c => Text.isDigit c || c == '_' then
    match rest.filter Text.isDigit with
    | [] => ofParts? negative reading.magnitude reading.scale
    | c :: _ => roundAt negative reading (Number.digitValue c)
  else none

def readFrom (negative : Bool) : Reading → List Char → Option Decimal
  | reading, [] =>
      if reading.digitSeen then ofParts? negative reading.magnitude reading.scale
      else none
  | reading, c :: rest =>
      if reading.pointSeen && greatestScale ≤ reading.scale then
        roundFrom negative reading (c :: rest)
      else if Text.isDigit c then
        let magnitude := 10 * reading.magnitude + Number.digitValue c
        if magnitude < magnitudeLimit then
          readFrom negative
            { magnitude := magnitude
              scale := if reading.pointSeen then reading.scale + 1 else 0
              pointSeen := reading.pointSeen
              digitSeen := true } rest
        else if reading.pointSeen then roundFrom negative reading (c :: rest)
        else none
      else if c = '.' && !reading.pointSeen then
        readFrom negative { reading with pointSeen := true } rest
      else if c = '_' && reading.digitSeen then readFrom negative reading rest
      else none

def readPlainChars? : List Char → Option Decimal
  | '-' :: rest => readFrom true ⟨0, 0, false, false⟩ rest
  | '+' :: rest => readFrom false ⟨0, 0, false, false⟩ rest
  | chars => readFrom false ⟨0, 0, false, false⟩ chars

/-- Splits at the first letter `e` of either case. -/
def splitExponent? (chars : List Char) : Option (List Char × List Char) :=
  Text.splitFirst? (fun c => c == 'e' || c == 'E') chars

/-- The value times ten to the given power. The scale makes room for the power as far as it
goes; past that the magnitude grows, and the result is then written without places. -/
def scaleUp? (value : Decimal) (power : Nat) : Option Decimal :=
  if power ≤ value.scale then ofSigned? value.negative value.magnitude (value.scale - power)
  else if greatestScale < power then none
  else ofSigned? value.negative (value.magnitude * Nat.pow 10 (power - value.scale)) 0

/-- The greatest number of 32 bits without a sign; no exponent is larger. -/
def greatestPower : Nat := 0xFFFFFFFF

/-- A magnitude without its last places, a half going up. -/
def dropPlaces (magnitude places : Nat) : Nat :=
  (2 * magnitude + Nat.pow 10 places) / (2 * Nat.pow 10 places)

/-- The value divided by ten to the given power, rounded to as many places as there are. The sign
outlives a rounding to zero. -/
def scaleDown? (value : Decimal) (power : Nat) : Option Decimal :=
  if greatestScale < power then none
  else if value.scale + power ≤ greatestScale then
    ofSigned? value.negative value.magnitude (value.scale + power)
  else
    ofSigned? value.negative
      (dropPlaces value.magnitude (value.scale + power - greatestScale)) greatestScale

def readScientificChars? (chars : List Char) : Option Decimal := do
  let (mantissa, exponent) ← splitExponent? chars
  let value ← readPlainChars? mantissa
  match exponent with
  | '-' :: rest => scaleDown? value (← Number.readUpTo? greatestPower rest)
  | _ => scaleUp? value (← Number.readUpTo? greatestPower exponent)

def readPlain? (text : String) : Option Decimal := readPlainChars? text.toList

def readScientific? (text : String) : Option Decimal := readScientificChars? text.toList

def read? (text : String) : Option Decimal :=
  (readPlain? text).orElse fun _ => readScientific? text

end SupplyCatalog.Decimal
