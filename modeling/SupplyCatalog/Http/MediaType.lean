import SupplyCatalog.Text.AsciiCase
import SupplyCatalog.Text.Split

/-!
# Media types

The type and subtype that a `Content-Type` header names, with any parameters behind them. A type
that is not well formed names nothing.
-/

namespace SupplyCatalog.Http

def isTokenMark (c : Char) : Bool :=
  ['!', '#', '$', '%', '&', '\'', '*', '+', '-', '.', '^', '_', '\x60', '|', '~'].contains c

def isTokenChar (c : Char) : Bool := Text.isLetter c || Text.isDigit c || isTokenMark c

def isQuotedChar (c : Char) : Bool := 0x20 ≤ c.toNat && c.toNat < 0x7F

inductive ParameterPlace
  /-- In front of a name, or behind the last parameter. -/
  | start
  | name
  /-- Right behind the equals sign. -/
  | beforeValue
  | value
  /-- Between quotes, where a quote is text as long as nothing stands before it. -/
  | quoted (isEmpty : Bool)
  | afterQuote
deriving DecidableEq

def ParameterPlace.next? (place : ParameterPlace) (c : Char) : Option ParameterPlace :=
  match place with
  | start => if c = ' ' then some start else if isTokenChar c then some name else none
  | name => if c = '=' then some beforeValue else if isTokenChar c then some name else none
  | beforeValue =>
      if c = '"' then some (quoted true) else if isTokenChar c then some value else none
  | value => if c = ';' then some start else if isTokenChar c then some value else none
  | quoted isEmpty =>
      if c = '"' && !isEmpty then some afterQuote
      else if isQuotedChar c then some (quoted false)
      else none
  | afterQuote => if c = ';' then some start else if c = ' ' then some afterQuote else none

def areParameters (place : ParameterPlace) : List Char → Bool
  | [] => place == .start || place == .beforeValue || place == .value || place == .afterQuote
  | c :: rest => (place.next? c).any fun place => areParameters place rest

structure MediaType where
  type : List Char
  /-- The subtype in front of a plus sign that is not its first character. -/
  subtype : List Char
  /-- What stands behind that plus sign. -/
  suffix : Option (List Char)
deriving DecidableEq

namespace MediaType

/-- Divides a subtype at its last plus sign, unless that is its first character. -/
def splitSuffix (subtype : List Char) : List Char × Option (List Char) :=
  match Text.splitLast? (· == '+') subtype with
  | some (base, suffix) => if base.isEmpty then (subtype, none) else (base, some suffix)
  | none => (subtype, none)

def parse? (text : String) : Option MediaType :=
  match text.toList.span isTokenChar with
  | (type, '/' :: rest) =>
      let (subtype, rest) := rest.span isTokenChar
      let areFine := match rest with
        | [] => true
        | ';' :: rest => !subtype.isEmpty && areParameters .start rest
        | _ => false
      if !type.isEmpty && areFine then
        let (subtype, suffix) := splitSuffix subtype
        some ⟨type.map Text.lowerChar, subtype.map Text.lowerChar,
          suffix.map (·.map Text.lowerChar)⟩
      else none
  | _ => none

def isJson (type : MediaType) : Bool :=
  type.type == "application".toList &&
    (type.subtype == "json".toList || type.suffix == some "json".toList)

end MediaType

end SupplyCatalog.Http
