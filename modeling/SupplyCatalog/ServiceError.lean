import SupplyCatalog.FieldErrors
import SupplyCatalog.Json.Basic

/-!
# Failed requests

Why a request fails, the status that goes with it, and the body that a client is shown. What went
wrong inside the service is not shown to clients.
-/

namespace SupplyCatalog

inductive ServiceError
  | badRequest (message : String)
  | validation (errors : FieldErrors)
  | notFound (message : String)
  | conflict (message : String)
  | internal (message : String)
deriving DecidableEq

namespace ServiceError

def status : ServiceError → Nat
  | badRequest _ => 400
  | validation _ => 400
  | notFound _ => 404
  | conflict _ => 409
  | internal _ => 500

def message : ServiceError → String
  | badRequest message => message
  | validation errors => errors.text
  | notFound message => message
  | conflict message => message
  | internal message => message

/-- A failure below the service, with what was being done. -/
def duringTask (task reason : String) : ServiceError := internal (task ++ ": " ++ reason)

def ofField (field message : String) : ServiceError :=
  validation (FieldErrors.empty.add field message)

def ofViolation (violation : Violation) : ServiceError :=
  validation (FieldErrors.ofViolation violation)

end ServiceError

def FieldErrors.toResult (errors : FieldErrors) : Except ServiceError Unit :=
  if errors.isEmpty then .ok () else .error (.validation errors)

namespace ServiceError

def fieldsBody (errors : FieldErrors) : Json :=
  .object (errors.entries.map fun entry => (entry.1, .array (entry.2.map .string)))

def messageBody (message : String) : Json := .object [("error", .string message)]

def hiddenMessage : String := "internal server error"

def body : ServiceError → Json
  | validation errors => fieldsBody errors
  | internal _ => messageBody hiddenMessage
  | failure => messageBody failure.message

end ServiceError

end SupplyCatalog
