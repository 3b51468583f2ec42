import SupplyCatalog.Attachment
import SupplyCatalog.Http.Message
import SupplyCatalog.Text.Split

/-!
# Routes

What the path of a request leads to, and what its method asks for there. A path that is spelled out
wins over one with a key in the same place.
-/

namespace SupplyCatalog.Http

inductive Resource
  | companies
  | manufacturerParts
  | parameters
  | supplierParts
  | priceBreaks
  | attachments (kind : AttachmentKind)
deriving DecidableEq

inductive Route
  | health
  | currencies
  | collection (resource : Resource)
  /-- One row, with its key as it stands in the path. -/
  | item (resource : Resource) (key : String)
deriving DecidableEq

namespace Route

def ofPieces? : List String → Option Route
  | ["", "health"] => some health
  | ["", "currencies"] => some currencies
  | ["", "company", ""] => some (collection .companies)
  | ["", "company", "attachment", ""] => some (collection (.attachments .company))
  | ["", "company", "attachment", key, ""] => some (item (.attachments .company) key)
  | ["", "company", "price-break", ""] => some (collection .priceBreaks)
  | ["", "company", "price-break", key, ""] => some (item .priceBreaks key)
  | ["", "company", "part", ""] => some (collection .supplierParts)
  | ["", "company", "part", "manufacturer", ""] => some (collection .manufacturerParts)
  | ["", "company", "part", "manufacturer", "attachment", ""] =>
      some (collection (.attachments .manufacturerPart))
  | ["", "company", "part", "manufacturer", "attachment", key, ""] =>
      some (item (.attachments .manufacturerPart) key)
  | ["", "company", "part", "manufacturer", "parameter", ""] => some (collection .parameters)
  | ["", "company", "part", "manufacturer", "parameter", key, ""] => some (item .parameters key)
  | ["", "company", "part", "manufacturer", key, ""] => some (item .manufacturerParts key)
  | ["", "company", "part", key, ""] => some (item .supplierParts key)
  | ["", "company", key, ""] => some (item .companies key)
  | _ => none

def ofPath? (path : String) : Option Route := ofPieces? (Text.splitSlashes path)

/-- The number that a key in a path stands for; it may be percent-encoded. -/
def readKey (key : String) : Except Rejection Int :=
  match (Text.decodeStrict? (Url.percentDecode (Text.utf8Bytes key))).bind fun text =>
    Number.readInt64? text.toList with
  | some pk => .ok pk
  | none => .error .badKey

end Route

inductive Action
  | health
  | currencies
  | list (resource : Resource)
  | create (resource : Resource)
  | get (resource : Resource) (pk : Int)
  | update (resource : Resource) (pk : Int) (isPartial : Bool)
  | delete (resource : Resource) (pk : Int)
deriving DecidableEq

/-- `HEAD` asks for what `GET` gives, without its body. -/
def isReading (method : String) : Bool := method == "GET" || method == "HEAD"

/-- Attachments are never changed. -/
def Resource.isEditable : Resource → Bool
  | attachments _ => false
  | _ => true

namespace Action

def ofItem (resource : Resource) (key method : String) : Except Rejection Action :=
  if isReading method then return .get resource (← Route.readKey key)
  else if method = "DELETE" then return .delete resource (← Route.readKey key)
  else if resource.isEditable && method = "PUT" then
    return .update resource (← Route.readKey key) false
  else if resource.isEditable && method = "PATCH" then
    return .update resource (← Route.readKey key) true
  else .error .wrongMethod

def ofRequest (request : Request) : Except Rejection Action :=
  let method := request.method
  match Route.ofPath? request.path with
  | none => .error .unknownPath
  | some .health => if isReading method then .ok .health else .error .wrongMethod
  | some .currencies => if isReading method then .ok .currencies else .error .wrongMethod
  | some (.collection resource) =>
      if isReading method then .ok (.list resource)
      else if method = "POST" then .ok (.create resource)
      else .error .wrongMethod
  | some (.item resource key) => ofItem resource key method

end Action

end SupplyCatalog.Http
