import SupplyCatalog.Payload.Value
import SupplyCatalog.ServiceError

/-!
# Payloads

The fields of a request, read one by one. Reading goes on after a field that breaks a rule, so
that all violations of a request are reported together. A partial payload may leave out any field;
a full one must carry those that are required.
-/

namespace SupplyCatalog

/-- A value together with the violations met on the way to it. -/
structure Noted (α : Type) where
  value : α
  violations : List Violation

namespace Noted

instance : Monad Noted where
  pure value := ⟨value, []⟩
  bind noted next :=
    let following := next noted.value
    ⟨following.value, noted.violations ++ following.violations⟩

def note (violation : Violation) : Noted Unit := ⟨(), [violation]⟩

def finish {α : Type} (noted : Noted α) : Except ServiceError α :=
  if noted.violations.isEmpty then .ok noted.value
  else .error (.validation (FieldErrors.ofViolations noted.violations))

end Noted

structure Payload where
  fields : List (String × Json)
  isPartial : Bool

namespace Payload

def ofJson (body : Json) (isPartial : Bool) : Except ServiceError Payload :=
  match body with
  | .object fields => .ok ⟨fields, isPartial⟩
  | _ => .error (.badRequest "Expected a JSON object")

def raw (payload : Payload) (key : String) : Option Json := Json.lookup payload.fields key

def checked {α : Type} (key : String) : Checked α → Noted (Option α)
  | .ok value => ⟨some value, []⟩
  | .error cause => ⟨none, [⟨key, cause⟩]⟩

def absent {α : Type} (payload : Payload) (key : String) (required : Bool) : Noted (Option α) :=
  if required && !payload.isPartial then ⟨none, [⟨key, .missing⟩]⟩ else ⟨none, []⟩

/-- A field for which null is no value. -/
def field {α : Type} (payload : Payload) (key : String) (required : Bool)
    (read : Json → Checked α) : Noted (Option α) :=
  match payload.raw key with
  | none => payload.absent key required
  | some .null => ⟨none, [⟨key, .null⟩]⟩
  | some value => checked key (read value)

/-- A field for which null is a value of its own. -/
def nullable {α : Type} (payload : Payload) (key : String) (required : Bool)
    (read : Json → Checked α) : Noted (Option (Option α)) :=
  match payload.raw key with
  | none => payload.absent key required
  | some .null => ⟨some none, []⟩
  | some value => checked key ((read value).map some)

def text (payload : Payload) (key : String) (limit : Nat) : Noted (Option String) :=
  payload.field key false (Value.text limit true)

def requiredText (payload : Payload) (key : String) (limit : Nat) : Noted (Option String) :=
  payload.field key true (Value.text limit false)

def nullableText (payload : Payload) (key : String) (limit : Nat) :
    Noted (Option (Option String)) :=
  payload.nullable key false (Value.text limit true)

def link (payload : Payload) (key : String) (limit : Nat) : Noted (Option String) :=
  payload.field key false (Value.address Url.linkSchemes limit)

def email (payload : Payload) (key : String) (limit : Nat) : Noted (Option String) :=
  payload.field key false (Value.email limit)

def boolean (payload : Payload) (key : String) : Noted (Option Bool) :=
  payload.field key false Value.boolean

def pk (payload : Payload) (key : String) (required : Bool) : Noted (Option Int) :=
  payload.field key required Value.pk

def nullablePk (payload : Payload) (key : String) : Noted (Option (Option Int)) :=
  payload.nullable key false Value.pk

def currency (payload : Payload) (key : String) (required : Bool) (table : CurrencyTable) :
    Noted (Option String) :=
  payload.field key required (Value.currency table)

end Payload

end SupplyCatalog
