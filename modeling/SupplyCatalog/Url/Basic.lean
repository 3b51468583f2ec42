import SupplyCatalog.Number.Integer
import SupplyCatalog.Text.AsciiCase
import SupplyCatalog.Text.Split
import SupplyCatalog.Url.Host

/-!
# Web addresses

An address has a scheme, a host, and optionally credentials, a port, a path, a query and a
fragment. `Url.parse?` reads addresses of the schemes `http`, `https`, `ftp` and `ftps` in the
lenient way of browsers: controls and blanks at the ends and line breaks anywhere are dropped, and
the first three schemes allow any number of slashes of either kind before the host. `Url.text`
writes the address in its one normal form.
-/

namespace SupplyCatalog

inductive UrlScheme
  | http
  | https
  | ftp
  | ftps
deriving DecidableEq

namespace UrlScheme

def name : UrlScheme → String
  | http => "http"
  | https => "https"
  | ftp => "ftp"
  | ftps => "ftps"

def ofName? (name : String) : Option UrlScheme :=
  [http, https, ftp, ftps].find? fun scheme => scheme.name == name

/-- Schemes whose hosts are domain names and whose paths may be written with backslashes. -/
def isWeb : UrlScheme → Bool
  | ftps => false
  | _ => true

def defaultPort? : UrlScheme → Option Nat
  | http => some 80
  | https => some 443
  | ftp => some 21
  | ftps => none

end UrlScheme

structure Url where
  scheme : UrlScheme
  /-- User name and password as they are written in the address. -/
  userName : List Char
  password : List Char
  host : Url.Host
  port : Option Nat
  path : List (List Char)
  query : Option (List Char)
  fragment : Option (List Char)

namespace Url

def isDropped (c : Char) : Bool := c == '\t' || c == '\n' || c == '\r'

def isOuter (c : Char) : Bool := c.toNat ≤ 0x20

def cleaned (text : String) : List Char :=
  (((text.toList.dropWhile isOuter).reverse.dropWhile isOuter).reverse).filter fun c =>
    !isDropped c

def isSchemeChar (c : Char) : Bool :=
  Text.isLetter c || Text.isDigit c || c == '+' || c == '-' || c == '.'

def splitScheme? (chars : List Char) : Option (UrlScheme × List Char) :=
  match chars.span isSchemeChar with
  | (first :: name, ':' :: rest) =>
      if Text.isLetter first then
        (UrlScheme.ofName? (Text.lower (String.ofList (first :: name)))).map (·, rest)
      else none
  | _ => none

def isSlash (scheme : UrlScheme) (c : Char) : Bool := c == '/' || (scheme.isWeb && c == '\\')

def afterSlashes? (scheme : UrlScheme) (chars : List Char) : Option (List Char) :=
  if scheme.isWeb then some (chars.dropWhile (isSlash scheme))
  else
    match chars with
    | '/' :: '/' :: rest => some rest
    | _ => none

def endsAuthority (scheme : UrlScheme) (c : Char) : Bool :=
  isSlash scheme c || c == '?' || c == '#'

/-- Splits at the last `@`, if there is one. -/
def splitCredentials (authority : List Char) : Option (List Char) × List Char :=
  match Text.splitLast? (· == '@') authority with
  | some (credentials, location) => (some credentials, location)
  | none => (none, authority)

def splitPassword (credentials : List Char) : List Char × List Char :=
  (Text.splitFirst? (· == ':') credentials).getD (credentials, [])

/-- The host before the first colon outside brackets, and what follows that colon. -/
def splitPort (inBrackets : Bool) : List Char → List Char × Option (List Char)
  | [] => ([], none)
  | c :: rest =>
      if c = ':' && !inBrackets then ([], some rest)
      else
        let inside := if c = '[' then true else if c = ']' then false else inBrackets
        let (host, port) := splitPort inside rest
        (c :: host, port)

def greatestPort : Nat := 65535

/-- The port, which is left out when it is empty or the usual one of the scheme. A backslash ends
it in every scheme. -/
def readPort? (scheme : UrlScheme) (chars : Option (List Char)) : Option (Option Nat) :=
  match (chars.getD []).takeWhile (· != '\\') with
  | [] => some none
  | digits => do
      let port ← Number.readDigits? digits
      if greatestPort < port then none
      else some (if scheme.defaultPort? = some port then none else some port)

/-! ## Paths -/

def isSingleDot (segment : List Char) : Bool :=
  Text.lower (String.ofList segment) ∈ [".", "%2e"]

def isDoubleDot (segment : List Char) : Bool :=
  Text.lower (String.ofList segment) ∈ ["..", ".%2e", "%2e.", "%2e%2e"]

/-- Follows the segments: one dot stays, two dots go up, and either leaves an empty segment when
it is the last. -/
def resolve (reached : List (List Char)) : List (List Char) → List (List Char)
  | [] => reached
  | segment :: rest =>
      let next :=
        if isDoubleDot segment then reached.dropLast ++ (if rest.isEmpty then [[]] else [])
        else if isSingleDot segment then reached ++ (if rest.isEmpty then [[]] else [])
        else reached ++ [percentEncode pathSet segment]
      resolve next rest

def readPath (scheme : UrlScheme) (chars : List Char) : List (List Char) :=
  match chars with
  | [] => [[]]
  | c :: rest =>
      let relative := if isSlash scheme c then rest else chars
      resolve [] (Text.splitWhere (isSlash scheme) relative)

/-! ## Whole addresses -/

def splitAtMark (mark : Char) (chars : List Char) : List Char × Option (List Char) :=
  match Text.splitFirst? (· == mark) chars with
  | some (before, after) => (before, some after)
  | none => (chars, none)

def readHost? (scheme : UrlScheme) (chars : List Char) : Option Host :=
  if scheme.isWeb then webHost? chars else opaqueHost? chars

def parseChars? (chars : List Char) : Option Url := do
  let (scheme, rest) ← splitScheme? chars
  let rest ← afterSlashes? scheme rest
  let (authority, rest) := rest.span fun c => !endsAuthority scheme c
  let (credentials, location) := splitCredentials authority
  let (userName, password) := splitPassword (credentials.getD [])
  let (hostChars, portChars) := splitPort false location
  let host ← readHost? scheme hostChars
  let port ← readPort? scheme portChars
  let (rest, fragment) := splitAtMark '#' rest
  let (path, query) := splitAtMark '?' rest
  return {
    scheme := scheme
    userName := percentEncode userInfoSet userName
    password := percentEncode userInfoSet password
    host := host
    port := port
    path := readPath scheme path
    query := query.map (percentEncode querySet)
    fragment := fragment.map (percentEncode fragmentSet) }

def parse? (text : String) : Option Url := parseChars? (cleaned text)

def credentialChars (url : Url) : List Char :=
  if url.userName.isEmpty && url.password.isEmpty then []
  else
    url.userName ++ (if url.password.isEmpty then [] else ':' :: url.password) ++ ['@']

def charsWith (url : Url) (credentials : List Char) : List Char :=
  url.scheme.name.toList ++ [':', '/', '/'] ++ credentials ++ url.host.toChars ++
    (match url.port with | some port => ':' :: Nat.toDigits 10 port | none => []) ++
    url.path.flatMap ('/' :: ·) ++
    (match url.query with | some query => '?' :: query | none => []) ++
    (match url.fragment with | some fragment => '#' :: fragment | none => [])

def text (url : Url) : String := String.ofList (url.charsWith url.credentialChars)

def isAddress (schemes : List UrlScheme) (text : String) : Bool :=
  match parse? text with
  | some url => schemes.contains url.scheme
  | none => false

def linkSchemes : List UrlScheme := [.http, .https, .ftp, .ftps]

def fetchSchemes : List UrlScheme := [.http, .https]

end Url

end SupplyCatalog
