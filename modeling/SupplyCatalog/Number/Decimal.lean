/-!
# Decimal numbers that carry their scale

A decimal is a sign, a magnitude of at most 96 bits and a count of decimal places of at most 28, so
`1.5` and `1.50` are two decimals of one value, and so are zero and the negative zero that is left
when a small negative number is rounded. The order looks at the value alone; `normalize` picks the
shortest decimal of a value, and `toText` writes every place.
-/

namespace SupplyCatalog

/-- The first magnitude that 96 bits cannot hold. -/
def Decimal.magnitudeLimit : Nat := 0x1000000000000000000000000

structure Decimal where
  negative : Bool
  magnitude : Nat
  scale : Nat
  magnitude_lt : magnitude < Decimal.magnitudeLimit
  scale_le : scale ≤ 28
deriving DecidableEq

namespace Decimal

def greatestScale : Nat := 28

/-- The whole number that the digits make up with their sign. -/
def coefficient (value : Decimal) : Int :=
  if value.negative then -(value.magnitude : Int) else value.magnitude

/-- The decimal of these parts, if they fit; the sign of a zero is kept. -/
def ofSigned? (negative : Bool) (magnitude scale : Nat) : Option Decimal :=
  if fits : magnitude < magnitudeLimit ∧ scale ≤ 28 then
    some ⟨negative, magnitude, scale, fits.1, fits.2⟩
  else none

/-- The decimal of these parts, if they fit; a zero has no sign. -/
def ofParts? (negative : Bool) (magnitude scale : Nat) : Option Decimal :=
  ofSigned? (negative && magnitude != 0) magnitude scale

def zero : Decimal := ⟨false, 0, 0, by decide, by decide⟩

def one : Decimal := ⟨false, 1, 0, by decide, by decide⟩

instance : Inhabited Decimal := ⟨zero⟩

def extended (value : Decimal) (zeros : Nat) : Int := value.coefficient * Nat.pow 10 zeros

def lt (a b : Decimal) : Prop := a.extended b.scale < b.extended a.scale

instance : LT Decimal := ⟨lt⟩

instance (a b : Decimal) : Decidable (a < b) :=
  inferInstanceAs (Decidable (a.extended b.scale < b.extended a.scale))

/-- Drops last digits that are zero, one decimal place with each. -/
def dropZeros (magnitude : Nat) : (scale : Nat) → Nat × Nat
  | 0 => (magnitude, 0)
  | scale + 1 =>
      if magnitude % 10 = 0 then dropZeros (magnitude / 10) scale
      else (magnitude, scale + 1)

theorem drop_zeros_magnitude_le (magnitude scale : Nat) :
    (dropZeros magnitude scale).1 ≤ magnitude := by
  induction scale generalizing magnitude with
  | zero => simp [dropZeros]
  | succ scale induction =>
      unfold dropZeros
      split
      · exact Nat.le_trans (induction _) (Nat.div_le_self _ _)
      · simp

theorem drop_zeros_scale_le (magnitude scale : Nat) :
    (dropZeros magnitude scale).2 ≤ scale := by
  induction scale generalizing magnitude with
  | zero => simp [dropZeros]
  | succ scale induction =>
      unfold dropZeros
      split
      · exact Nat.le_succ_of_le (induction _)
      · simp

/-- The decimal of the same value with the fewest places; a zero loses its sign. -/
def normalize (value : Decimal) : Decimal where
  negative := value.negative && value.magnitude != 0
  magnitude := (dropZeros value.magnitude value.scale).1
  scale := (dropZeros value.magnitude value.scale).2
  magnitude_lt := Nat.lt_of_le_of_lt (drop_zeros_magnitude_le _ _) value.magnitude_lt
  scale_le := Nat.le_trans (drop_zeros_scale_le _ _) value.scale_le

/-- The digits of the magnitude, with zeros in front so that at least one digit stands before
the point. -/
def paddedDigits (magnitude scale : Nat) : List Char :=
  let digits := Nat.toDigits 10 magnitude
  List.replicate (scale + 1 - digits.length) '0' ++ digits

def toChars (value : Decimal) : List Char :=
  let digits := paddedDigits value.magnitude value.scale
  let whole := digits.length - value.scale
  (if value.negative then ['-'] else []) ++ digits.take whole ++
    (if value.scale = 0 then [] else '.' :: digits.drop whole)

/-- Sign, whole part and every decimal place, the last zeros included. -/
def toText (value : Decimal) : String := String.ofList value.toChars

/-- The number of digits of the magnitude; zero has one. -/
def digitCount (value : Decimal) : Nat := (Nat.toDigits 10 value.magnitude).length

end Decimal

end SupplyCatalog
