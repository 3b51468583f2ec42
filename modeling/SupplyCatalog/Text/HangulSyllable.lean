/-!
# Hangul syllables

A Korean syllable is one character, made up of a leading consonant, a vowel, and possibly a trailing
consonant. The syllables stand in the order of their letters, so that either way is arithmetic.
-/

namespace SupplyCatalog.Text.HangulSyllable

def leadBase : Nat := 0x1100
def vowelBase : Nat := 0x1161

/-- The code point before the first trailing consonant: none at all counts as one. -/
def tailBase : Nat := 0x11A7

def syllableBase : Nat := 0xAC00

def leadCount : Nat := 19
def vowelCount : Nat := 21
def tailCount : Nat := 28

def syllableCount : Nat := 11172

/-- The place of a code point behind a first one, if it is among the next `count`. -/
def place? (base count code : Nat) : Option Nat :=
  if base ≤ code ∧ code < base + count then some (code - base) else none

def letters? (c : Char) : Option (List Char) :=
  (place? syllableBase syllableCount c.toNat).map fun place =>
    let tail := place % tailCount
    [Char.ofNat (leadBase + place / tailCount / vowelCount),
      Char.ofNat (vowelBase + place / tailCount % vowelCount)] ++
      (if tail = 0 then [] else [Char.ofNat (tailBase + tail)])

def openSyllable? (first second : Char) : Option Char := do
  let lead ← place? leadBase leadCount first.toNat
  let vowel ← place? vowelBase vowelCount second.toNat
  return Char.ofNat (syllableBase + (lead * vowelCount + vowel) * tailCount)

def closedSyllable? (first second : Char) : Option Char := do
  let place ← place? syllableBase syllableCount first.toNat
  let tail ← place? tailBase tailCount second.toNat
  if place % tailCount = 0 ∧ tail ≠ 0 then some (Char.ofNat (first.toNat + tail)) else none

/-- The syllable of a consonant and a vowel, or of an open syllable and a consonant behind it. -/
def join? (first second : Char) : Option Char :=
  (openSyllable? first second).orElse fun _ => closedSyllable? first second

end SupplyCatalog.Text.HangulSyllable
