import SupplyCatalog.Number.Integer

/-!
# Calendar dates

Days of the Gregorian calendar, extended without end in both directions, and their count from
1 January 1970.
-/

namespace SupplyCatalog

structure Date where
  year : Int
  month : Nat
  day : Nat
deriving DecidableEq

namespace Date

def isLeap (year : Int) : Bool := year % 4 == 0 && (year % 100 != 0 || year % 400 == 0)

def daysInMonth (year : Int) (month : Nat) : Nat :=
  match month with
  | 2 => if isLeap year then 29 else 28
  | 4 | 6 | 9 | 11 => 30
  | _ => 31

def isValid (date : Date) : Bool :=
  1 ≤ date.month && date.month ≤ 12 && 1 ≤ date.day && date.day ≤ daysInMonth date.year date.month

/-- Days since 1 January 1970, counted in eras of 400 years that begin on 1 March. -/
def toDays (date : Date) : Int :=
  let year := if date.month ≤ 2 then date.year - 1 else date.year
  let era := year / 400
  let yearOfEra := year - era * 400
  let monthOfYear : Int := (date.month + 9) % 12
  let dayOfYear := (153 * monthOfYear + 2) / 5 + date.day - 1
  era * 146097 + yearOfEra * 365 + yearOfEra / 4 - yearOfEra / 100 + dayOfYear - 719468

def ofDays (days : Int) : Date :=
  let shifted := days + 719468
  let era := shifted / 146097
  let dayOfEra := shifted - era * 146097
  let yearOfEra :=
    (dayOfEra - dayOfEra / 1460 + dayOfEra / 36524 - dayOfEra / 146096) / 365
  let dayOfYear := dayOfEra - (365 * yearOfEra + yearOfEra / 4 - yearOfEra / 100)
  let monthOfYear := (5 * dayOfYear + 2) / 153
  let day := (dayOfYear - (153 * monthOfYear + 2) / 5 + 1).toNat
  let month := (if monthOfYear < 10 then monthOfYear + 3 else monthOfYear - 9).toNat
  let year := yearOfEra + era * 400 + (if month ≤ 2 then 1 else 0)
  ⟨year, month, day⟩

def padded (width number : Nat) : List Char :=
  let digits := Nat.toDigits 10 number
  List.replicate (width - digits.length) '0' ++ digits

/-- Four digits of the year, with a sign in front when it has more or is negative. -/
def yearChars (year : Int) : List Char :=
  if 0 ≤ year && year ≤ 9999 then padded 4 year.toNat
  else (if year < 0 then '-' else '+') :: padded 4 year.natAbs

def toChars (date : Date) : List Char :=
  yearChars date.year ++ '-' :: (padded 2 date.month ++ '-' :: padded 2 date.day)

def toText (date : Date) : String := String.ofList date.toChars

def readTwo? : List Char → Option (Nat × List Char)
  | a :: b :: rest => do return (← Number.readDigits? [a, b], rest)
  | _ => none

/-- A date with a year of four digits at the head of the text. -/
def readChars? : List Char → Option (Date × List Char)
  | a :: b :: c :: d :: '-' :: rest => do
      let year ← Number.readDigits? [a, b, c, d]
      let (month, rest) ← readTwo? rest
      match rest with
      | '-' :: rest =>
          let (day, rest) ← readTwo? rest
          let date : Date := ⟨year, month, day⟩
          if date.isValid then some (date, rest) else none
      | _ => none
  | _ => none

def read? (text : String) : Option Date :=
  match readChars? text.toList with
  | some (date, []) => some date
  | _ => none

end Date

end SupplyCatalog
