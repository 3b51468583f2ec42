import SupplyCatalog.Json.Basic
import SupplyCatalog.Text.Hexadecimal

/-!
# Reading JSON

The grammar of JSON without extensions: no text after the value, no control character inside a
string, no half of a surrogate pair. Arrays and objects nest at most 127 deep. Of a key given
twice in one object the last value counts.

A number with a point or an exponent, or one too large for 64 bits, becomes a floating-point
number: its first digits, as many as fit in 64 bits, are rounded once, and the result is multiplied
or divided by a power of ten.
-/

namespace SupplyCatalog.Json

def isSpace (c : Char) : Bool := c == ' ' || c == '\n' || c == '\r' || c == '\t'

def skipSpace (chars : List Char) : List Char := chars.dropWhile isSpace

/-! ## Numbers -/

/-- Takes digits into the significand while it fits in 64 bits; gives the significand, how many
digits were taken, and how many were left. -/
def takeDigits (significand taken : Nat) : List Char → Nat × Nat × Nat
  | [] => (significand, taken, 0)
  | c :: rest =>
      let next := 10 * significand + Number.digitValue c
      if next ≤ Number.greatestWord then takeDigits next (taken + 1) rest
      else (significand, taken, rest.length + 1)

def powerOfTen (exponent : Nat) : Float := Float.ofScientific 1 false exponent

/-- Multiplies by a power of ten in steps that the format can hold; none if that overflows. -/
def scaleReal? (value : Float) (exponent : Int) : (steps : Nat) → Option Float
  | 0 => some value
  | steps + 1 =>
      if exponent.natAbs ≤ 308 then
        if 0 ≤ exponent then
          let scaled := value * powerOfTen exponent.natAbs
          if Number.isFiniteReal scaled then some scaled else none
        else some (value / powerOfTen exponent.natAbs)
      else if value == 0.0 then some value
      else if 0 ≤ exponent then none
      else scaleReal? (value / powerOfTen 308) (exponent + 308) steps

def realOf? (negative : Bool) (significand : Nat) (exponent : Int) : Option JsonNumber := do
  let magnitude ← scaleReal? (Float.ofScientific significand false 0) exponent 4
  return .real (if negative then -magnitude else magnitude)

structure Numeral where
  negative : Bool
  whole : List Char
  fraction : Option (List Char)
  exponent : Option (Bool × List Char)

/-- The largest exponent that is looked at; beyond it a number is zero or out of range. -/
def greatestExponent : Nat := 0x7FFFFFFF

def Numeral.value? (numeral : Numeral) : Option JsonNumber :=
  let (significand, _, left) := takeDigits 0 0 numeral.whole
  match numeral.fraction, numeral.exponent with
  | none, none =>
      if left = 0 then
        let opposite := -(significand : Int)
        if !numeral.negative then some (.whole significand)
        else if opposite < 0 && Number.leastInt64 ≤ opposite then some (.whole opposite)
        else realOf? true significand 0
      else realOf? numeral.negative significand left
  | fraction, exponent =>
      let (significand, taken, _) := takeDigits significand 0 (fraction.getD [])
      let shift : Int := (left : Int) - taken
      match exponent with
      | none => realOf? numeral.negative significand shift
      | some (downward, digits) =>
          let power := Number.ofDigits digits
          if greatestExponent < power then
            if significand != 0 && !downward then none
            else some (.real (if numeral.negative then -0.0 else 0.0))
          else
            realOf? numeral.negative significand
              (if downward then shift - (power : Int) else shift + (power : Int))

def digitRun (chars : List Char) : List Char × List Char := chars.span Text.isDigit

def readFraction? : List Char → Option (Option (List Char) × List Char)
  | '.' :: rest =>
      match digitRun rest with
      | ([], _) => none
      | (digits, rest) => some (some digits, rest)
  | rest => some (none, rest)

def readExponentDigits? (downward : Bool) (chars : List Char) :
    Option (Option (Bool × List Char) × List Char) :=
  match digitRun chars with
  | ([], _) => none
  | (digits, rest) => some (some (downward, digits), rest)

def readExponent? : List Char → Option (Option (Bool × List Char) × List Char)
  | c :: rest =>
      if c = 'e' ∨ c = 'E' then
        match rest with
        | '+' :: rest => readExponentDigits? false rest
        | '-' :: rest => readExponentDigits? true rest
        | rest => readExponentDigits? false rest
      else some (none, c :: rest)
  | [] => some (none, [])

/-- A number without its sign; a leading zero stands alone. -/
def readMagnitude? (negative : Bool) (chars : List Char) : Option (JsonNumber × List Char) := do
  let (whole, rest) := digitRun chars
  match whole with
  | [] => none
  | '0' :: _ :: _ => none
  | _ =>
      let (fraction, rest) ← readFraction? rest
      let (exponent, rest) ← readExponent? rest
      let value ← Numeral.value? ⟨negative, whole, fraction, exponent⟩
      return (value, rest)

def readNumber? : List Char → Option (JsonNumber × List Char)
  | '-' :: rest => readMagnitude? true rest
  | chars => readMagnitude? false chars

/-! ## Strings -/

def fourHex? (a b c d : Char) : Option Nat := do
  let a ← Text.hexValue? a
  let b ← Text.hexValue? b
  let c ← Text.hexValue? c
  let d ← Text.hexValue? d
  return ((a * 16 + b) * 16 + c) * 16 + d

def simpleEscape? : Char → Option Char
  | '"' => some '"'
  | '\\' => some '\\'
  | '/' => some '/'
  | 'b' => some '\x08'
  | 'f' => some '\x0c'
  | 'n' => some '\n'
  | 'r' => some '\r'
  | 't' => some '\t'
  | _ => none

def isHighSurrogate (unit : Nat) : Bool := 0xD800 ≤ unit && unit ≤ 0xDBFF

def isLowSurrogate (unit : Nat) : Bool := 0xDC00 ≤ unit && unit ≤ 0xDFFF

/-- The rest of a string after its opening quote, with what has been read of it in reverse. -/
def readString? (read : List Char) : List Char → Option (String × List Char)
  | '"' :: rest => some (String.ofList read.reverse, rest)
  | '\\' :: 'u' :: a :: b :: c :: d :: '\\' :: 'u' :: e :: f :: g :: h :: rest =>
      match fourHex? a b c d with
      | none => none
      | some unit =>
          if isLowSurrogate unit then none
          else if isHighSurrogate unit then
            match fourHex? e f g h with
            | none => none
            | some low =>
                if isLowSurrogate low then
                  let code := 0x10000 + (unit - 0xD800) * 0x400 + (low - 0xDC00)
                  readString? (Char.ofNat code :: read) rest
                else none
          else
            readString? (Char.ofNat unit :: read) ('\\' :: 'u' :: e :: f :: g :: h :: rest)
  | '\\' :: 'u' :: a :: b :: c :: d :: rest =>
      match fourHex? a b c d with
      | none => none
      | some unit =>
          if isLowSurrogate unit || isHighSurrogate unit then none
          else readString? (Char.ofNat unit :: read) rest
  | '\\' :: c :: rest =>
      match simpleEscape? c with
      | none => none
      | some escaped => readString? (escaped :: read) rest
  | c :: rest =>
      if c = '\\' ∨ c.toNat < 0x20 then none else readString? (c :: read) rest
  | [] => none

/-! ## Values -/

mutual

/-- A value at the head of the text. `depth` counts the levels still allowed, `fuel` the steps. -/
def readValue? (fuel depth : Nat) (chars : List Char) : Option (Json × List Char) :=
  match fuel with
  | 0 => none
  | fuel + 1 =>
      match skipSpace chars with
      | 'n' :: 'u' :: 'l' :: 'l' :: rest => some (null, rest)
      | 't' :: 'r' :: 'u' :: 'e' :: rest => some (bool true, rest)
      | 'f' :: 'a' :: 'l' :: 's' :: 'e' :: rest => some (bool false, rest)
      | '"' :: rest => (readString? [] rest).map fun (value, rest) => (string value, rest)
      | '[' :: rest =>
          if depth ≤ 1 then none
          else
            match skipSpace rest with
            | ']' :: rest => some (array [], rest)
            | rest => readItems? fuel (depth - 1) [] rest
      | '{' :: rest =>
          if depth ≤ 1 then none
          else
            match skipSpace rest with
            | '}' :: rest => some (object [], rest)
            | rest => readFields? fuel (depth - 1) [] rest
      | rest => (readNumber? rest).map fun (value, rest) => (number value, rest)

/-- One more item and what follows it, after the items read so far, which are in reverse. -/
def readItems? (fuel depth : Nat) (read : List Json) (chars : List Char) :
    Option (Json × List Char) :=
  match fuel with
  | 0 => none
  | fuel + 1 =>
      match readValue? fuel depth chars with
      | none => none
      | some (item, rest) =>
          match skipSpace rest with
          | ',' :: rest => readItems? fuel depth (item :: read) rest
          | ']' :: rest => some (array (item :: read).reverse, rest)
          | _ => none

def readFields? (fuel depth : Nat) (read : List (String × Json)) (chars : List Char) :
    Option (Json × List Char) :=
  match fuel with
  | 0 => none
  | fuel + 1 =>
      match skipSpace chars with
      | '"' :: rest =>
          match readString? [] rest with
          | none => none
          | some (key, rest) =>
              match skipSpace rest with
              | ':' :: rest =>
                  match readValue? fuel depth rest with
                  | none => none
                  | some (value, rest) =>
                      match skipSpace rest with
                      | ',' :: rest => readFields? fuel depth (setField read key value) rest
                      | '}' :: rest => some (object (setField read key value), rest)
                      | _ => none
              | _ => none
      | _ => none

end

def greatestDepth : Nat := 128

def parse? (text : String) : Option Json :=
  let chars := text.toList
  match readValue? (2 * chars.length + 2) greatestDepth chars with
  | some (value, rest) => if (skipSpace rest).isEmpty then some value else none
  | none => none

end SupplyCatalog.Json
