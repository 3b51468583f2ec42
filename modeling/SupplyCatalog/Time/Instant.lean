import SupplyCatalog.Time.Date

/-!
# Instants

A moment in universal time to the nanosecond, and its text as RFC 3339 gives it. A leap second is
kept as a second of twice the length.
-/

namespace SupplyCatalog

/-- Seconds since the start of 1970, and nanoseconds past them, below two thousand million. -/
structure Instant where
  seconds : Int
  nanos : Nat
deriving DecidableEq

namespace Instant

def secondsPerDay : Int := 86400

/-- As few of 0, 3, 6 or 9 places as keep the value. -/
def fractionChars (nanos : Nat) : List Char :=
  if nanos = 0 then []
  else if nanos % 1000000 = 0 then '.' :: Date.padded 3 (nanos / 1000000)
  else if nanos % 1000 = 0 then '.' :: Date.padded 6 (nanos / 1000)
  else '.' :: Date.padded 9 nanos

def clockChars (secondOfDay nanos : Nat) : List Char :=
  let leap := nanos / 1000000000
  Date.padded 2 (secondOfDay / 3600) ++ ':' :: (Date.padded 2 (secondOfDay / 60 % 60) ++
    ':' :: (Date.padded 2 (secondOfDay % 60 + leap) ++ fractionChars (nanos % 1000000000)))

def toChars (instant : Instant) (zone : List Char) : List Char :=
  (Date.ofDays (instant.seconds / secondsPerDay)).toChars ++
    'T' :: (clockChars (instant.seconds % secondsPerDay).toNat instant.nanos ++ zone)

def toText (instant : Instant) : String := String.ofList (instant.toChars ['Z'])

def toOffsetText (instant : Instant) : String :=
  String.ofList (instant.toChars ['+', '0', '0', ':', '0', '0'])

def readClock? (chars : List Char) : Option (Nat × Nat × List Char) := do
  let (hour, rest) ← Date.readTwo? chars
  let ':' :: rest := rest | none
  let (minute, rest) ← Date.readTwo? rest
  let ':' :: rest := rest | none
  let (second, rest) ← Date.readTwo? rest
  if hour ≤ 23 && minute ≤ 59 && second ≤ 60 then
    if second = 60 then some (hour * 3600 + minute * 60 + 59, 1000000000, rest)
    else some (hour * 3600 + minute * 60 + second, 0, rest)
  else none

/-- Places after the point; those past the ninth are dropped. -/
def readNanos? : List Char → Option (Nat × List Char)
  | '.' :: rest =>
      match rest.span Text.isDigit with
      | ([], _) => none
      | (digits, rest) =>
          let kept := digits.take 9
          some (Number.ofDigits kept * Nat.pow 10 (9 - kept.length), rest)
  | rest => some (0, rest)

/-- The offset in seconds, which has to end the text. -/
def readOffset? : List Char → Option Int
  | ['Z'] => some 0
  | ['z'] => some 0
  | sign :: rest => do
      let (hours, rest) ← Date.readTwo? rest
      let ':' :: rest := rest | none
      let (minutes, rest) ← Date.readTwo? rest
      let offset : Int := (hours * 60 + minutes) * 60
      if !rest.isEmpty || 59 < minutes || 23 < hours then none
      else if sign = '+' then some offset
      else if sign = '-' then some (-offset)
      else none
  | [] => none

def read? (text : String) : Option Instant := do
  let (date, rest) ← Date.readChars? text.toList
  let mark :: rest := rest | none
  if mark = 'T' || mark = 't' || mark = ' ' then
    let (second, leap, rest) ← readClock? rest
    let (nanos, rest) ← readNanos? rest
    let offset ← readOffset? rest
    return ⟨date.toDays * secondsPerDay + second - offset, leap + nanos⟩
  else none

end Instant

end SupplyCatalog
