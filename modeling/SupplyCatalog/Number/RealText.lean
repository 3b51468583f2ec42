import SupplyCatalog.Number.Shortest

/-!
# Text of binary floating-point numbers

A number of 64 bits is written with the fewest digits that read back, always with a point or an
exponent. The point is placed among the digits while the exponent of the first digit is between
-5 and 15; past that the exponent is written, with its sign.
-/

namespace SupplyCatalog.Number

/-- How far from the point the first digit may stand in positional notation. -/
structure RealFormat where
  leastPositional : Int
  greatestPositional : Int

def realFormat : RealFormat := ⟨-5, 15⟩

def exponentChars (exponent : Int) : List Char :=
  (if exponent < 0 then '-' else '+') :: Nat.toDigits 10 exponent.natAbs

/-- Digits `d₁d₂…` with the first digit at the given power of ten. -/
def layOut (format : RealFormat) (digits : List Char) (lead : Int) : List Char :=
  if format.leastPositional ≤ lead && lead ≤ format.greatestPositional then
    if lead < 0 then
      '0' :: '.' :: (List.replicate (lead.natAbs - 1) '0' ++ digits)
    else
      let whole := lead.toNat + 1
      let padded := digits ++ List.replicate (whole - digits.length) '0'
      let places := padded.drop whole
      padded.take whole ++ '.' :: (if places.isEmpty then ['0'] else places)
  else
    match digits with
    | [] => []
    | first :: rest =>
        first :: (if rest.isEmpty then [] else '.' :: rest) ++ 'e' :: exponentChars lead

def magnitudeChars (bits : Nat) : List Char :=
  if bits = 0 then ['0', '.', '0']
  else
    let scaled := Scaled.withoutZeros (Binary.shortest (Binary.ofBits bits)) 17
    let digits := Nat.toDigits 10 scaled.digits
    layOut realFormat digits (scaled.power + digits.length - 1)

/-- The text of a finite number; infinities and NaN have none. -/
def realText (value : Float) : String :=
  let bits := value.toBits.toNat
  let magnitude := bits % signSize
  String.ofList ((if signSize ≤ bits then ['-'] else []) ++ magnitudeChars magnitude)

def isFiniteReal (value : Float) : Bool :=
  exponentField value.toBits.toNat != 2047

end SupplyCatalog.Number
