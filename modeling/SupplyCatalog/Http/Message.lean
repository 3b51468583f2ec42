import SupplyCatalog.Http.MediaType
import SupplyCatalog.Json.Parser
import SupplyCatalog.Query
import SupplyCatalog.ServiceError

/-!
# Requests and responses

A request as it comes in, a response as it goes out, and the reasons for which a request is turned
away before anything has been read or written.
-/

namespace SupplyCatalog.Http

structure Request where
  method : String
  /-- What follows the root of the service in the address. -/
  path : String
  query : String
  contentType : Option String
  body : String
deriving DecidableEq

structure Response where
  status : Nat
  body : Option Json

inductive Rejection
  | unknownPath
  | wrongMethod
  | badKey
  | badQuery
  | notJson
  | badSyntax
deriving DecidableEq

def Rejection.status : Rejection → Nat
  | unknownPath => 404
  | wrongMethod => 405
  | badKey => 400
  | badQuery => 400
  | notJson => 415
  | badSyntax => 400

namespace Request

def readQuery {α : Type} (request : Request)
    (read : Query.Pairs → Except Query.Rejection α) : Except Rejection α :=
  match read (Url.formPairs request.query) with
  | .ok query => .ok query
  | .error _ => .error .badQuery

/-- The body of a request, which has to be declared as JSON before it is read. -/
def json (request : Request) : Except Rejection Json :=
  if (request.contentType.bind MediaType.parse?).any MediaType.isJson then
    match Json.parse? request.body with
    | some value => .ok value
    | none => .error .badSyntax
  else .error .notJson

end Request

namespace Response

def rejected (rejection : Rejection) : Response := ⟨rejection.status, none⟩

def failed (failure : ServiceError) : Response := ⟨failure.status, some failure.body⟩

def ofResult {α : Type} (status : Nat) (shown : α → Json) : Except ServiceError α → Response
  | .ok value => ⟨status, some (shown value)⟩
  | .error failure => failed failure

def ofDeletion : Except ServiceError Unit → Response
  | .ok () => ⟨204, none⟩
  | .error failure => failed failure

end Response

end SupplyCatalog.Http
