import SupplyCatalog.Number.Decimal

/-!
# Decimals as floating-point numbers

A decimal with places is turned into a binary number part by part: the whole part and the places
are rounded each for itself, added, and the sum is rounded once more at the last place.
-/

namespace SupplyCatalog.Decimal

def realOfNat (number : Nat) : Float := Float.ofScientific number false 0

/-- Ten to a power, by repeated squaring; exact up to the power 22. -/
def squaringPower (result base : Float) : (exponent fuel : Nat) → Float
  | _, 0 => result
  | exponent, fuel + 1 =>
      let result := if exponent % 2 = 1 then result * base else result
      if exponent / 2 = 0 then result
      else squaringPower result (base * base) (exponent / 2) fuel

def magnitudeToReal (magnitude scale : Nat) : Float :=
  if scale = 0 then realOfNat magnitude
  else
    let unit := Nat.pow 10 scale
    let whole := realOfNat (magnitude / unit)
    let places := realOfNat (magnitude % unit) / realOfNat unit
    if places == 0.0 then whole
    else
      let power := squaringPower 1.0 10.0 scale 8
      ((whole + places) * power).round / power

def toReal (value : Decimal) : Float :=
  let magnitude := magnitudeToReal value.magnitude value.scale
  if value.negative then -magnitude else magnitude

end SupplyCatalog.Decimal
