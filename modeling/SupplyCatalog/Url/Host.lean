import SupplyCatalog.Url.DomainLabel
import SupplyCatalog.Url.Ip
import SupplyCatalog.Url.PercentEncoding

/-!
# Hosts

The host of a web address is a domain name, an IPv4 address or an IPv6 address in brackets. A
domain name is percent-decoded, brought to its domain characters and written in ASCII, label by
label. The host of other addresses is kept as it is written.
-/

namespace SupplyCatalog.Url

inductive Host
  | name (chars : List Char)
  | ipv4 (address : Nat)
  | ipv6 (pieces : List Nat)
deriving DecidableEq

namespace Host

def toChars : Host → List Char
  | name chars => chars
  | ipv4 address => ipv4Chars address
  | ipv6 pieces => '[' :: ipv6Chars pieces ++ [']']

end Host

def hostForbidden (c : Char) : Bool :=
  c == '\x00' || c == '\t' || c == '\n' || c == '\r' || c == ' ' || c == '#' || c == '/' ||
    c == ':' || c == '<' || c == '>' || c == '?' || c == '@' || c == '[' || c == '\\' ||
    c == ']' || c == '^' || c == '|'

def domainForbidden (c : Char) : Bool := hostForbidden c || isControl c || c == '%'

def domainToAscii? (bytes : List UInt8) : Option (List Char) := do
  let text ← Text.decodeStrict? bytes
  let labels := splitDots (← domainText? text.toList)
  let meanings ← labels.mapM DomainLabel.meaning?
  if !meanings.all DomainLabel.isWellFormed then none
  else if meanings.any DomainLabel.isRightward &&
      !meanings.all DomainLabel.hasOneDirection then none
  else
    let domain := List.intercalate ['.'] (labels.map DomainLabel.toAscii)
    if domain.any domainForbidden then none else some domain

def bracketed? : List Char → Option (List Char)
  | '[' :: rest => if rest.getLast? = some ']' then some rest.dropLast else none
  | _ => none

def webHost? (chars : List Char) : Option Host :=
  if chars.head? = some '[' then
    ((bracketed? chars).bind ipv6?).map .ipv6
  else do
    let domain ← domainToAscii? (percentDecode (Text.utf8Bytes (String.ofList chars)))
    if domain.isEmpty then none
    else if endsInNumber domain then (ipv4? domain).map .ipv4
    else some (.name domain)

/-- The host of an address of another kind; it must not be empty either. -/
def opaqueHost? (chars : List Char) : Option Host :=
  if chars.head? = some '[' then
    ((bracketed? chars).bind ipv6?).map .ipv6
  else if chars.isEmpty || chars.any hostForbidden then none
  else some (.name (percentEncode isControl chars))

end SupplyCatalog.Url
