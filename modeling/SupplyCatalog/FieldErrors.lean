import SupplyCatalog.Violation

/-!
# Errors by field

The messages of all violations found in one request, grouped by field. Fields are listed in the
order of their characters, the messages of a field in the order in which they were recorded.
-/

namespace SupplyCatalog

structure FieldErrors where
  entries : List (String × List String)
deriving DecidableEq

namespace FieldErrors

def empty : FieldErrors := ⟨[]⟩

def addEntry (field message : String) :
    List (String × List String) → List (String × List String)
  | [] => [(field, [message])]
  | entry :: rest =>
      if entry.1 = field then (field, entry.2 ++ [message]) :: rest
      else if field < entry.1 then (field, [message]) :: entry :: rest
      else entry :: addEntry field message rest

def add (errors : FieldErrors) (field message : String) : FieldErrors :=
  ⟨addEntry field message errors.entries⟩

def push (errors : FieldErrors) (violation : Violation) : FieldErrors :=
  errors.add violation.field violation.message

/-- Records the violation of a failed check; hands on the value of one that passed. -/
def check {α : Type} (errors : FieldErrors) : Except Violation α → Option α × FieldErrors
  | .ok value => (some value, errors)
  | .error violation => (none, errors.push violation)

def isEmpty (errors : FieldErrors) : Bool := errors.entries.isEmpty

def get? (errors : FieldErrors) (field : String) : Option (List String) :=
  (errors.entries.find? fun entry => entry.1 == field).map (·.2)

def contains (errors : FieldErrors) (field : String) : Bool := (errors.get? field).isSome

def ofViolations (violations : List Violation) : FieldErrors := violations.foldl push empty

def ofViolation (violation : Violation) : FieldErrors := empty.push violation

/-- A text that messages are written to one after the other. -/
structure Writing where
  isFirst : Bool
  written : String

namespace Writing

def start : Writing := ⟨true, ""⟩

/-- Writes a message of a field, after a separator unless it is the first of all. -/
def writeMessage (field : String) (writing : Writing) (message : String) : Writing where
  isFirst := false
  written := writing.written ++ (if writing.isFirst then "" else "; ") ++
    (field ++ ": " ++ message)

def writeEntry (writing : Writing) (entry : String × List String) : Writing :=
  entry.2.foldl (writeMessage entry.1) writing

end Writing

def text (errors : FieldErrors) : String :=
  (errors.entries.foldl Writing.writeEntry .start).written

end FieldErrors

end SupplyCatalog
