import SupplyCatalog.Text.Hexadecimal
import SupplyCatalog.Text.Utf8

/-!
# Percent-encoding

A byte is written as `%` and two hexadecimal digits. Each part of an address has a set of ASCII
characters that are written so; characters beyond ASCII always are.
-/

namespace SupplyCatalog.Url

/-- Bytes for which `%` and two hexadecimal digits stand; any other `%` stands for itself. -/
def percentDecode : List UInt8 → List UInt8
  | 0x25 :: high :: low :: rest =>
      match Text.hexValue? (Char.ofNat high.toNat), Text.hexValue? (Char.ofNat low.toNat) with
      | some highValue, some lowValue =>
          UInt8.ofNat (16 * highValue + lowValue) :: percentDecode rest
      | _, _ => 0x25 :: percentDecode (high :: low :: rest)
  | byte :: rest => byte :: percentDecode rest
  | [] => []

def isControl (c : Char) : Bool := c.toNat < 0x20 || c.toNat == 0x7F

def fragmentSet (c : Char) : Bool :=
  isControl c || c == ' ' || c == '"' || c == '<' || c == '>' || c.toNat == 0x60

/-- Characters that are percent-encoded in the query of an address with a domain. -/
def querySet (c : Char) : Bool :=
  isControl c || c == ' ' || c == '"' || c == '#' || c == '<' || c == '>' || c == '\''

def pathSet (c : Char) : Bool :=
  fragmentSet c || c == '#' || c == '?' || c == '{' || c == '}'

def userInfoSet (c : Char) : Bool :=
  pathSet c || c == '/' || c == ':' || c == ';' || c == '=' || c == '@' || c == '[' ||
    c == '\\' || c == ']' || c == '^' || c == '|'

def percentEncodeByte (byte : UInt8) : List Char :=
  ['%', Text.upperHexDigit (byte.toNat / 16), Text.upperHexDigit (byte.toNat % 16)]

def percentEncodeChar (encoded : Char → Bool) (c : Char) : List Char :=
  if 0x80 ≤ c.toNat || encoded c then
    (Text.utf8Bytes c.toString).flatMap percentEncodeByte
  else [c]

def percentEncode (encoded : Char → Bool) (chars : List Char) : List Char :=
  chars.flatMap (percentEncodeChar encoded)

end SupplyCatalog.Url
