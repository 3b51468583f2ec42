import SupplyCatalog.Url.Basic

/-!
# Addresses of requests

The address as a request for it names it. User name and password are sent apart from the address if
they can be read as text. A request can be made for most addresses: the host must not have certain
signs, although a domain name may, and there is a limit to the length.
-/

namespace SupplyCatalog.Url

def readsAsText (chars : List Char) : Bool :=
  (Text.decodeStrict? (percentDecode (Text.utf8Bytes (String.ofList chars)))).isSome

def sendsCredentials (url : Url) : Bool :=
  readsAsText url.userName &&
    (!url.userName.isEmpty || (!url.password.isEmpty && readsAsText url.password))

/-- The text of the address as a request for it names it. -/
def requestText (url : Url) : String :=
  String.ofList (url.charsWith (if url.sendsCredentials then [] else url.credentialChars))

/-- Signs of domain names for which no request can be made. -/
def isUnrequestable (c : Char) : Bool :=
  c == '"' || c == '\x60' || c == '\x7B' || c == '\x7D'

def greatestRequestLength : Nat := 65534

def isRequestable (url : Url) : Bool :=
  !url.host.toChars.any isUnrequestable && url.requestText.length ≤ greatestRequestLength

end SupplyCatalog.Url
