/-!
# The fewest digits that read back

A positive number `m · 2 ^ q` of a binary format is written with the fewest decimal digits that
the format rounds back to it; of two such texts of one length, the nearer counts. Both ends of the
interval that rounds to the number belong to it when `m` is even.
-/

namespace SupplyCatalog.Number

/-- A positive number `mantissa · 2 ^ exponent` and the interval that rounds to it; `narrow` says
that the next smaller number is only half as far away as the next larger one. -/
structure Binary where
  mantissa : Nat
  exponent : Int
  narrow : Bool

structure Scaled where
  digits : Nat
  power : Int
deriving DecidableEq

namespace Binary

/-- The value, and the two ends of its interval, as numerators over one denominator. -/
structure Fractions where
  value : Nat
  least : Nat
  greatest : Nat
  denominator : Nat

def fractions (number : Binary) : Fractions :=
  let up := Nat.pow 2 number.exponent.toNat
  let below := if number.narrow then 1 else 2
  { value := 4 * number.mantissa * up
    least := (4 * number.mantissa - below) * up
    greatest := (4 * number.mantissa + 2) * up
    denominator := 4 * Nat.pow 2 (-number.exponent).toNat }

/-- The power of ten of the first digit of `numerator / denominator`. -/
def leadingPower (numerator denominator : Nat) : Int :=
  if denominator ≤ numerator then
    ((Nat.toDigits 10 (numerator / denominator)).length : Int) - 1
  else
    let places := (Nat.toDigits 10 ((denominator + numerator - 1) / numerator - 1)).length
    Int.neg places

/-- Both sides of a comparison of `digits · 10 ^ power` with `numerator / denominator`. -/
def crossed (candidate : Scaled) (numerator denominator : Nat) : Nat × Nat :=
  (candidate.digits * Nat.pow 10 candidate.power.toNat * denominator,
    numerator * Nat.pow 10 (-candidate.power).toNat)

def rounds (number : Binary) (f : Fractions) (candidate : Scaled) : Bool :=
  let (low, least) := crossed candidate f.least f.denominator
  let (high, greatest) := crossed candidate f.greatest f.denominator
  if number.mantissa % 2 = 0 then least ≤ low && high ≤ greatest
  else least < low && high < greatest

/-- The better of the two neighbours on the grid of step `10 ^ power`, if one rounds back. -/
def onGrid? (number : Binary) (f : Fractions) (power : Int) : Option Scaled :=
  let whole := f.value * Nat.pow 10 (-power).toNat / (f.denominator * Nat.pow 10 power.toNat)
  let beneath : Scaled := ⟨whole, power⟩
  let above : Scaled := ⟨whole + 1, power⟩
  match rounds number f beneath, rounds number f above with
  | true, true =>
      let (low, value) := crossed beneath f.value f.denominator
      let (high, _) := crossed above f.value f.denominator
      let toBeneath := value - low
      let toAbove := high - value
      if toBeneath < toAbove || (toBeneath = toAbove && whole % 2 = 0) then some beneath
      else some above
  | true, false => some beneath
  | false, true => some above
  | false, false => none

/-- Tries grids of `count`, then more, digits; seventeen always suffice for 64 bits. -/
def search (number : Binary) (f : Fractions) (lead : Int) (count : Nat) :
    (more : Nat) → Scaled
  | 0 => (onGrid? number f (lead - count + 1)).getD ⟨0, 0⟩
  | more + 1 =>
      match onGrid? number f (lead - count + 1) with
      | some found => found
      | none => search number f lead (count + 1) more

def shortest (number : Binary) : Scaled :=
  let f := number.fractions
  search number f (leadingPower f.value f.denominator) 1 16

end Binary

def Scaled.withoutZeros (number : Scaled) : (room : Nat) → Scaled
  | 0 => number
  | room + 1 =>
      if number.digits != 0 && number.digits % 10 = 0 then
        Scaled.withoutZeros ⟨number.digits / 10, number.power + 1⟩ room
      else number

/-! ## The layout of 64 bits: a sign, 11 bits of exponent, 52 bits of fraction -/

def fractionSize : Nat := 0x10000000000000

def exponentSize : Nat := 0x800

def signSize : Nat := 0x8000000000000000

def exponentField (bits : Nat) : Nat := bits / fractionSize % exponentSize

/-- The number that 64 bits of a finite positive number stand for. -/
def Binary.ofBits (bits : Nat) : Binary :=
  let fraction : Nat := bits % fractionSize
  if exponentField bits = 0 then ⟨fraction, -1074, false⟩
  else
    ⟨fractionSize + fraction, Int.ofNat (exponentField bits) - 1075,
      fraction = 0 && 1 < exponentField bits⟩

end SupplyCatalog.Number
