import SupplyCatalog.Store.Basic

/-!
# References

What a key stands for. A reference that a request gives has to lead to a row that may be referred to
in that place; one that is kept in the database always leads to a row.
-/

namespace SupplyCatalog

/-- The row of a kept reference; its absence would be a fault of the service. -/
def Table.related {α : Type} [Keyed α] (table : Table α) (kind : String) (pk : Int) :
    Except ServiceError α :=
  match table.find? pk with
  | some row => .ok row
  | none => .error (.internal s!"{kind} {pk} is missing")

/-- The row that a request is about. -/
def Table.wanted {α : Type} [Keyed α] (table : Table α) (kind : String) (pk : Int) :
    Except ServiceError α :=
  match table.find? pk with
  | some row => .ok row
  | none => .error (.notFound (kind ++ " not found"))

/-- The row that a field refers to. -/
def Table.referred {α : Type} [Keyed α] (table : Table α) (field : String) (pk : Int) :
    Except Violation α :=
  match table.find? pk with
  | some row => .ok row
  | none => .error ⟨field, .noSuchRow pk⟩

def Violation.of {α : Type} : Except Violation α → List Violation
  | .ok _ => []
  | .error violation => [violation]

def Violation.inField {α : Type} (field : String) (value : α) :
    Checked Unit → Except Violation α
  | .ok () => .ok value
  | .error cause => .error ⟨field, cause⟩

namespace Database

/-- The part that a field names; it has to be one that can be bought. -/
def purchaseablePart (database : Database) (field : String) (pk : Int) :
    Except Violation Part := do
  let part ← database.parts.referred field pk
  Violation.inField field part part.requirePurchaseable

/-- The company that a field names; it has to have the role. -/
def companyWithRole (database : Database) (field : String) (pk : Int) (role : CompanyRole) :
    Except Violation Company := do
  let company ← database.companies.referred field pk
  Violation.inField field company (company.requireRole role)

end Database

end SupplyCatalog
