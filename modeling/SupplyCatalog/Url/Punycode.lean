import SupplyCatalog.Text.AsciiCase
import SupplyCatalog.Text.Split

/-!
# Punycode

The writing of a label with characters beyond ASCII in ASCII letters and digits: first the ASCII
characters, then, in the order of their code points, how far each other character lies from the one
before it.
-/

namespace SupplyCatalog.Url.Punycode

def digitChar (value : Nat) : Char :=
  if value < 26 then Char.ofNat (97 + value) else Char.ofNat (22 + value)

def digitValue? (c : Char) : Option Nat :=
  let lower := Text.lowerChar c
  if 'a' ≤ lower ∧ lower ≤ 'z' then some (lower.toNat - 97)
  else if '0' ≤ c ∧ c ≤ '9' then some (c.toNat - 22)
  else none

def threshold (position bias : Nat) : Nat :=
  if position ≤ bias then 1 else if bias + 26 ≤ position then 26 else position - bias

theorem one_le_threshold (position bias : Nat) : 1 ≤ threshold position bias := by
  unfold threshold
  split
  · omega
  · split <;> omega

def adaptFrom (delta position : Nat) : Nat :=
  if 455 < delta then adaptFrom (delta / 35) (position + 36)
  else position + 36 * delta / (delta + 38)
termination_by delta

/-- The bias after a difference was written, for as many characters as there are then. -/
def adapt (delta count : Nat) (isFirst : Bool) : Nat :=
  let damped := if isFirst then delta / 700 else delta / 2
  adaptFrom (damped + damped / count) 0

/-- The digits of a difference, in a base that changes from place to place. -/
def differenceChars (bias position rest : Nat) : List Char :=
  if rest < threshold position bias then [digitChar rest]
  else
    digitChar (threshold position bias +
      (rest - threshold position bias) % (36 - threshold position bias)) ::
      differenceChars bias (position + 36)
        ((rest - threshold position bias) / (36 - threshold position bias))
termination_by rest
decreasing_by
  have low := one_le_threshold position bias
  exact Nat.lt_of_le_of_lt (Nat.div_le_self _ _) (by omega)

structure EncoderState where
  written : List Char
  delta : Nat
  bias : Nat
  handled : Nat
  basic : Nat

/-- Passes one character of the label while the code point `code` is being placed. -/
def EncoderState.pass (code : Nat) (state : EncoderState) (c : Char) : EncoderState :=
  if c.toNat < code then { state with delta := state.delta + 1 }
  else if c.toNat = code then
    { state with
      written := state.written ++ differenceChars state.bias 36 state.delta
      delta := 0
      bias := adapt state.delta (state.handled + 1) (state.handled = state.basic)
      handled := state.handled + 1 }
  else state

def encodeFrom (label : List Char) (state : EncoderState) (least : Nat) :
    (codes : List Nat) → List Char
  | [] => state.written
  | code :: codes =>
      let skipped := { state with delta := state.delta + (code - least) * (state.handled + 1) }
      let passed := label.foldl (EncoderState.pass code) skipped
      encodeFrom label { passed with delta := passed.delta + 1 } (code + 1) codes

def insertCode (code : Nat) : List Nat → List Nat
  | [] => [code]
  | other :: rest =>
      if code < other then code :: other :: rest
      else if code = other then other :: rest
      else other :: insertCode code rest

def encode (label : List Char) : List Char :=
  let basic := label.filter fun c => c.toNat < 128
  let codes := (label.filter fun c => 128 ≤ c.toNat).foldr (fun c => insertCode c.toNat) []
  let start := if basic.isEmpty then [] else basic ++ ['-']
  encodeFrom label ⟨start, 0, 72, basic.length, basic.length⟩ 128 codes

/-- The first weight that a digit cannot have: weights are numbers of 32 bits. -/
def weightLimit : Nat := 0x100000000

/-- Reads one difference; gives the sum of the digits and the rest. -/
def readDifference? (bias : Nat) : (position weight sum : Nat) → List Char →
    Option (Nat × List Char)
  | _, _, _, [] => none
  | position, weight, sum, c :: rest => do
      let value ← digitValue? c
      let sum := sum + value * weight
      let limit := threshold position bias
      if value < limit then return (sum, rest)
      else if weightLimit ≤ weight * (36 - limit) then none
      else readDifference? bias (position + 36) (weight * (36 - limit)) sum rest

def insertAt (label : List Char) (index : Nat) (c : Char) : List Char :=
  label.take index ++ c :: label.drop index

/-- Places characters while there are differences; `fuel` is the length of what is left. -/
def decodeFrom? (bias code index : Nat) (label : List Char) :
    (fuel : Nat) → List Char → Option (List Char)
  | _, [] => some label
  | 0, _ => none
  | fuel + 1, chars => do
      let (sum, rest) ← readDifference? bias 36 1 0 chars
      let total := index + sum
      let count := label.length + 1
      let code := code + total / count
      let place := total % count
      if 0x10FFFF < code || (0xD800 ≤ code && code ≤ 0xDFFF) then none
      else
        decodeFrom? (adapt sum count (index = 0)) code
          (place + 1) (insertAt label place (Char.ofNat code)) fuel rest

/-- The ASCII characters and the differences, which the last hyphen divides unless nothing stands
before it. -/
def splitBasic (chars : List Char) : List Char × List Char :=
  match Text.splitLast? (· == '-') chars with
  | some (c :: basic, differences) => (c :: basic, differences)
  | _ => ([], chars)

def decode? (chars : List Char) : Option (List Char) :=
  let (basic, differences) := splitBasic chars
  if basic.all fun c => c.toNat < 128 then
    decodeFrom? 72 128 0 basic differences.length differences
  else none

end SupplyCatalog.Url.Punycode
