import SupplyCatalog.Number.Integer
import SupplyCatalog.Text.Hexadecimal
import SupplyCatalog.Text.Split

/-!
# Numeric hosts

IPv4 addresses of one to four numbers in decimal, octal or hexadecimal notation, and IPv6
addresses with one run of zeros left out and the last two pieces in dotted notation.
-/

namespace SupplyCatalog.Url

def splitDots (host : List Char) : List (List Char) := Text.splitWhere (· == '.') host

/-! ## IPv4 -/

inductive NumberBase
  | octal
  | decimal
  | hexadecimal

namespace NumberBase

def radix : NumberBase → Nat
  | octal => 8
  | decimal => 10
  | hexadecimal => 16

def ofDigits? (base : NumberBase) (digits : List Char) : Option Nat :=
  digits.foldl
    (fun number c => do
      let value ← Text.hexValue? c
      if value < base.radix then return (← number) * base.radix + value else none)
    (some 0)

end NumberBase

/-- One number of an IPv4 address: `0x` begins hexadecimal digits, another `0` octal ones. A mark
without digits stands for zero. -/
def ipv4Number? : List Char → Option Nat
  | [] => none
  | '0' :: 'x' :: digits => NumberBase.hexadecimal.ofDigits? digits
  | '0' :: 'X' :: digits => NumberBase.hexadecimal.ofDigits? digits
  | '0' :: digit :: digits => NumberBase.octal.ofDigits? (digit :: digits)
  | digits => NumberBase.decimal.ofDigits? digits

def withoutLastEmpty (labels : List (List Char)) : List (List Char) :=
  if labels.getLast? = some [] then labels.dropLast else labels

/-- A host whose last label is a number can only be an IPv4 address. -/
def endsInNumber (host : List Char) : Bool :=
  match (withoutLastEmpty (splitDots host)).getLast? with
  | none => false
  | some label => (!label.isEmpty && label.all Text.isDigit) || (ipv4Number? label).isSome

/-- All numbers but the last fill one byte each, the last fills the rest. -/
def ipv4? (host : List Char) : Option Nat := do
  let labels := withoutLastEmpty (splitDots host)
  if 4 < labels.length then none
  else
    let numbers ← labels.mapM ipv4Number?
    let last ← numbers.getLast?
    let leading := numbers.dropLast
    if Nat.pow 256 (4 - leading.length) ≤ last || leading.any (255 < ·) then none
    else
      let shifted := leading.zipIdx.map fun (number, index) => number * Nat.pow 256 (3 - index)
      return shifted.foldl Nat.add last

def ipv4Chars (address : Nat) : List Char :=
  (String.intercalate "." ([3, 2, 1, 0].map fun index =>
    toString (address / Nat.pow 256 index % 256))).toList

/-! ## IPv6 -/

def pieceOf? (digits : List Char) : Option Nat :=
  if digits.isEmpty || 4 < digits.length then none
  else NumberBase.hexadecimal.ofDigits? digits

/-- Four decimal numbers without leading zeros, as two pieces. -/
def dottedPieces? (chars : List Char) : Option (List Nat) := do
  let numbers ← (splitDots chars).mapM fun digits =>
    match digits with
    | '0' :: _ :: _ => none
    | _ => do
        let number ← Number.readDigits? digits
        if number ≤ 255 then some number else none
  match numbers with
  | [a, b, c, d] => some [256 * a + b, 256 * c + d]
  | _ => none

/-- Pieces divided by colons; the last place may hold four numbers in dotted notation. -/
def pieces? : (groups : List (List Char)) → Option (List Nat)
  | [] => some []
  | [last] => if last.contains '.' then dottedPieces? last else (pieceOf? last).map ([·])
  | group :: rest => do return (← pieceOf? group) :: (← pieces? rest)

def groupsOf (chars : List Char) : List (List Char) :=
  if chars.isEmpty then [] else Text.splitWhere (· == ':') chars

def splitAtGap? : List Char → Option (List Char × List Char)
  | ':' :: ':' :: rest => some ([], rest)
  | c :: rest => (splitAtGap? rest).map fun (before, after) => (c :: before, after)
  | [] => none

/-- Eight pieces, or fewer around one gap, which stands for at least one piece of zero. -/
def ipv6? (chars : List Char) : Option (List Nat) :=
  match splitAtGap? chars with
  | none => do
      let pieces ← pieces? (groupsOf chars)
      if pieces.length = 8 then some pieces else none
  | some (before, after) => do
      if before.contains '.' then none
      else
        let leading ← pieces? (groupsOf before)
        let trailing ← pieces? (groupsOf after)
        let given := leading.length + trailing.length
        if given ≤ 7 then some (leading ++ List.replicate (8 - given) 0 ++ trailing) else none

def longestZeros (pieces : List Nat) : Nat × Nat :=
  (List.range pieces.length).foldl
    (fun best start =>
      let run := ((pieces.drop start).takeWhile (· == 0)).length
      if best.2 < run then (start, run) else best)
    (0, 0)

def hexChars (number : Nat) : List Char := Nat.toDigits 16 number

def joinPieces (pieces : List Nat) : List Char :=
  List.intercalate [':'] (pieces.map hexChars)

/-- Lower case, with the first longest run of at least two zeros left out. -/
def ipv6Chars (pieces : List Nat) : List Char :=
  let (start, run) := longestZeros pieces
  if run < 2 then joinPieces pieces
  else joinPieces (pieces.take start) ++ [':', ':'] ++ joinPieces (pieces.drop (start + run))

end SupplyCatalog.Url
