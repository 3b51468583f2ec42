import SupplyCatalog.Number.Integer
import SupplyCatalog.Text.Hexadecimal
import SupplyCatalog.Time.Date
import SupplyCatalog.Toml.Basic

/-!
# TOML scalars

Numbers, dates and times, and quoted texts at the head of some characters. Digits may be divided by
single underscores; whole numbers have 64 bits and may be hexadecimal, octal or binary; every reader
gives what it has read together with the characters that follow.
-/

namespace SupplyCatalog.Toml

/-! ## Numbers -/

/-- The digits that go on a run of digits, without the underscores between them. -/
def moreDigits (isDigit : Char → Bool) : List Char → List Char × List Char
  | '_' :: c :: rest =>
      if isDigit c then
        let (digits, rest) := moreDigits isDigit rest
        (c :: digits, rest)
      else ([], '_' :: c :: rest)
  | c :: rest =>
      if isDigit c then
        let (digits, rest) := moreDigits isDigit rest
        (c :: digits, rest)
      else ([], c :: rest)
  | [] => ([], [])

def readRun? (isDigit : Char → Bool) : List Char → Option (List Char × List Char)
  | c :: rest =>
      if isDigit c then
        let (digits, rest) := moreDigits isDigit rest
        some (c :: digits, rest)
      else none
  | [] => none

def isBinaryDigit (c : Char) : Bool := c == '0' || c == '1'

def isOctalDigit (c : Char) : Bool := '0' ≤ c && c ≤ '7'

def isHexDigit (c : Char) : Bool := (Text.hexValue? c).isSome

def ofDigits (base : Nat) (digits : List Char) : Nat :=
  digits.foldl (fun number c => base * number + (Text.hexValue? c).getD 0) 0

def integer? (number : Int) (rest : List Char) : Option (Toml × List Char) :=
  if Number.fitsInt64 number then some (.integer number, rest) else none

def readBase? (base : Nat) (isDigit : Char → Bool) (chars : List Char) :
    Option (Toml × List Char) := do
  let (digits, rest) ← readRun? isDigit chars
  integer? (ofDigits base digits) rest

def readSign : List Char → Bool × List Char
  | '-' :: rest => (true, rest)
  | '+' :: rest => (false, rest)
  | chars => (false, chars)

def readExponent? : List Char → Option (Option Int × List Char)
  | c :: rest =>
      if c = 'e' ∨ c = 'E' then do
        let (downward, rest) := readSign rest
        let (digits, rest) ← readRun? Text.isDigit rest
        let power : Int := Number.ofDigits digits
        return (some (if downward then -power else power), rest)
      else some (none, c :: rest)
  | [] => some (none, [])

def readFraction? : List Char → Option (Option (List Char) × List Char)
  | '.' :: rest => do
      let (digits, rest) ← readRun? Text.isDigit rest
      return (some digits, rest)
  | rest => some (none, rest)

/-- The nearest number of 64 bits, which is infinite past the greatest one. -/
def magnitude (digits : List Char) (exponent : Int) : Float :=
  let coefficient := Number.ofDigits digits
  let size := exponent + digits.length
  if coefficient = 0 ∨ size < -400 then 0.0
  else if 400 < size ∧ 400 < exponent then 1.0 / 0.0
  else Float.ofScientific coefficient (decide (exponent < 0)) exponent.natAbs

/-- A decimal number: whole unless it has a fraction or an exponent. A leading zero stands alone. -/
def readDecimal? (negative : Bool) (chars : List Char) : Option (Toml × List Char) := do
  let (whole, rest) ← readRun? Text.isDigit chars
  if whole.head? = some '0' && 1 < whole.length then none
  else
    let (fraction, rest) ← readFraction? rest
    let (exponent, rest) ← readExponent? rest
    if fraction.isNone && exponent.isNone then
      let number : Int := Number.ofDigits whole
      integer? (if negative then -number else number) rest
    else
      let places := fraction.getD []
      let value := magnitude (whole ++ places) (exponent.getD 0 - places.length)
      if negative then some (.real (-value), rest)
      else if value.isInf then none
      else some (.real value, rest)

def readSpecial? (negative : Bool) : List Char → Option (Toml × List Char)
  | 'i' :: 'n' :: 'f' :: rest => some (.real (if negative then -1.0 / 0.0 else 1.0 / 0.0), rest)
  | 'n' :: 'a' :: 'n' :: rest => some (.real (0.0 / 0.0), rest)
  | _ => none

def readNumber? : List Char → Option (Toml × List Char)
  | '0' :: 'x' :: rest => readBase? 16 isHexDigit rest
  | '0' :: 'o' :: rest => readBase? 8 isOctalDigit rest
  | '0' :: 'b' :: rest => readBase? 2 isBinaryDigit rest
  | chars =>
      let (negative, rest) := readSign chars
      match readSpecial? negative rest with
      | some found => some found
      | none => readDecimal? negative rest

/-! ## Dates and times -/

def dropFraction : List Char → List Char
  | '.' :: c :: rest =>
      if Text.isDigit c then rest.dropWhile Text.isDigit else '.' :: c :: rest
  | rest => rest

def afterTime? (chars : List Char) : Option (List Char) := do
  let (hour, rest) ← Date.readTwo? chars
  let ':' :: rest := rest | none
  let (minute, rest) ← Date.readTwo? rest
  let ':' :: rest := rest | none
  let (second, rest) ← Date.readTwo? rest
  if hour ≤ 23 && minute ≤ 59 && second ≤ 60 then some (dropFraction rest) else none

def afterOffset (chars : List Char) : List Char :=
  match chars with
  | 'Z' :: rest => rest
  | 'z' :: rest => rest
  | sign :: rest =>
      let after? : Option (List Char) := do
        let (hour, rest) ← Date.readTwo? rest
        let ':' :: rest := rest | none
        let (minute, rest) ← Date.readTwo? rest
        if (sign = '+' || sign = '-') && hour ≤ 23 && minute ≤ 59 then some rest else none
      after?.getD chars
  | [] => []

def afterMoment? (chars : List Char) : Option (List Char) :=
  match Date.readChars? chars with
  | none => afterTime? chars
  | some (_, mark :: rest) =>
      if mark = 'T' || mark = 't' || mark = ' ' then
        match afterTime? rest with
        | some rest => some (afterOffset rest)
        | none => some (mark :: rest)
      else some (mark :: rest)
  | some (_, []) => some []

/-! ## Texts -/

/-- Characters that stand for themselves in a text; controls other than the tab do not. -/
def isPlain (c : Char) : Bool := c == '\t' || (0x20 ≤ c.toNat && c.toNat != 0x7F)

def simpleEscape? : Char → Option Char
  | 'b' => some '\x08'
  | 't' => some '\t'
  | 'n' => some '\n'
  | 'f' => some '\x0c'
  | 'r' => some '\r'
  | '"' => some '"'
  | '\\' => some '\\'
  | _ => none

def charOfHex? (digits : List Char) : Option Char :=
  let code := ofDigits 16 digits
  if digits.all isHexDigit && code.isValidChar then some (Char.ofNat code) else none

/-- The rest of a text on one line after its opening quote, with what has been read in reverse. -/
def readBasic? (read : List Char) : List Char → Option (String × List Char)
  | '"' :: rest => some (String.ofList read.reverse, rest)
  | '\\' :: 'u' :: a :: b :: c :: d :: rest => do
      readBasic? ((← charOfHex? [a, b, c, d]) :: read) rest
  | '\\' :: 'U' :: a :: b :: c :: d :: e :: f :: g :: h :: rest => do
      readBasic? ((← charOfHex? [a, b, c, d, e, f, g, h]) :: read) rest
  | '\\' :: c :: rest => do readBasic? ((← simpleEscape? c) :: read) rest
  | c :: rest => if isPlain c then readBasic? (c :: read) rest else none
  | [] => none

def readLiteral? (read : List Char) : List Char → Option (String × List Char)
  | '\'' :: rest => some (String.ofList read.reverse, rest)
  | c :: rest => if isPlain c then readLiteral? (c :: read) rest else none
  | [] => none

/-- Three quotes end a text of several lines; up to two more in front of them belong to it. -/
def closing? (quote : Char) : List Char → Option (Nat × List Char)
  | a :: b :: c :: d :: e :: rest =>
      if a = quote && b = quote && c = quote then
        if d = quote then if e = quote then some (2, rest) else some (1, e :: rest)
        else some (0, d :: e :: rest)
      else none
  | [a, b, c, d] =>
      if a = quote && b = quote && c = quote then
        if d = quote then some (1, []) else some (0, [d])
      else none
  | [a, b, c] => if a = quote && b = quote && c = quote then some (0, []) else none
  | _ => none

/-- Whether a backslash in front of the characters ends a line, with only blanks behind it. -/
def endsLine (chars : List Char) : Bool :=
  match chars.dropWhile fun c => c == ' ' || c == '\t' with
  | '\n' :: _ => true
  | '\r' :: '\n' :: _ => true
  | _ => false

def isLineSpace (c : Char) : Bool := c == ' ' || c == '\t' || c == '\n' || c == '\r'

/-- The rest of a text of several lines; `skipping` passes the blanks behind a backslash that ends a
line. -/
def readLines? (quote : Char) (skipping : Bool) (read : List Char) :
    List Char → Option (String × List Char)
  | [] => none
  | c :: rest =>
      if skipping && isLineSpace c then
        if c = '\r' && rest.head? != some '\n' then none else readLines? quote true read rest
      else
        match closing? quote (c :: rest) with
        | some (quotes, after) =>
            some (String.ofList (read.reverse ++ List.replicate quotes quote), after)
        | none =>
            if c = '\\' && quote = '"' then
              match rest with
              | 'u' :: a :: b :: c :: d :: rest => do
                  readLines? quote false ((← charOfHex? [a, b, c, d]) :: read) rest
              | 'U' :: a :: b :: c :: d :: e :: f :: g :: h :: rest => do
                  readLines? quote false ((← charOfHex? [a, b, c, d, e, f, g, h]) :: read) rest
              | escaped :: rest =>
                  if endsLine (escaped :: rest) then
                    readLines? quote true read (escaped :: rest)
                  else do readLines? quote false ((← simpleEscape? escaped) :: read) rest
              | [] => none
            else if c = '\r' then
              match rest with
              | '\n' :: rest => readLines? quote false ('\n' :: read) rest
              | _ => none
            else if c = '\n' || isPlain c then readLines? quote false (c :: read) rest
            else none

/-- A line break right behind the opening quotes does not belong to the text. -/
def dropFirstBreak : List Char → List Char
  | '\n' :: rest => rest
  | '\r' :: '\n' :: rest => rest
  | rest => rest

def readText? : List Char → Option (String × List Char)
  | '"' :: '"' :: '"' :: rest => readLines? '"' false [] (dropFirstBreak rest)
  | '\'' :: '\'' :: '\'' :: rest => readLines? '\'' false [] (dropFirstBreak rest)
  | '"' :: rest => readBasic? [] rest
  | '\'' :: rest => readLiteral? [] rest
  | _ => none

end SupplyCatalog.Toml
