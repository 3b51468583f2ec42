import SupplyCatalog.ServiceError
import SupplyCatalog.Store.Database

/-!
# What the database refuses

The schema has clauses of two kinds that a row may break: a key that no two rows of a table share,
and references, each of which leads to a row. A missing value is the same as no other, so a key
with a missing value in it is shared with nobody. Columns that may not be empty are fields that
always hold a value, and there is nothing to refuse in them.
-/

namespace SupplyCatalog

/-- What the schema asks of the rows of one table. -/
structure Clauses (α : Type) where
  /-- The columns of the shared key, as a refusal names them. -/
  columns : List String
  sharesKey : α → α → Bool
  hasParents : Database → α → Bool

inductive Refusal
  | sharedKey (columns : List String)
  | missingParent
deriving DecidableEq

def Refusal.message : Refusal → String
  | sharedKey columns => "UNIQUE constraint failed: " ++ String.intercalate ", " columns
  | missingParent => "FOREIGN KEY constraint failed"

namespace Clauses

variable {α : Type} [Keyed α]

/-- The clause that a row breaks; keys are looked at before references. -/
def refusal? (clauses : Clauses α) (database : Database) (table : Table α) (row : α) :
    Option Refusal :=
  if table.anyOther (Keyed.pk row) (clauses.sharesKey row) then
    some (.sharedKey clauses.columns)
  else if clauses.hasParents database row then none
  else some .missingParent

/-- Puts a row into a table and gives it back with its key, unless it is refused. -/
def insert (clauses : Clauses α) (database : Database) (table : Table α) (task : String)
    (row : α) : Except ServiceError (α × Table α) :=
  match clauses.refusal? database table (table.keyed row) with
  | some refusal => .error (.duringTask task refusal.message)
  | none => .ok (table.keyed row, table.insert row)

def replace (clauses : Clauses α) (database : Database) (table : Table α) (task : String)
    (row : α) : Except ServiceError (Table α) :=
  match clauses.refusal? database table row with
  | some refusal => .error (.duringTask task refusal.message)
  | none => .ok (table.replace row)

end Clauses

/-! ## The clauses of each table -/

def Company.clauses : Clauses Company where
  columns := ["companies.name"]
  sharesKey a b := a.name == b.name
  hasParents _ _ := true

def ManufacturerPart.clauses : Clauses ManufacturerPart where
  columns :=
    ["manufacturer_parts.part_id", "manufacturer_parts.manufacturer_id", "manufacturer_parts.mpn"]
  sharesKey a b :=
    a.part == b.part && a.manufacturer == b.manufacturer && a.mpn.isSome && a.mpn == b.mpn
  hasParents database row :=
    database.parts.contains row.part && database.companies.contains row.manufacturer

def Parameter.clauses : Clauses Parameter where
  columns :=
    ["manufacturer_part_parameters.manufacturer_part_id", "manufacturer_part_parameters.name"]
  sharesKey a b := a.manufacturerPart == b.manufacturerPart && a.name == b.name
  hasParents database row := database.manufacturerParts.contains row.manufacturerPart

def SupplierPart.clauses : Clauses SupplierPart where
  columns := ["supplier_parts.part_id", "supplier_parts.supplier_id", "supplier_parts.sku"]
  sharesKey a b := a.part == b.part && a.supplier == b.supplier && a.sku == b.sku
  hasParents database row :=
    database.parts.contains row.part && database.companies.contains row.supplier &&
      row.manufacturerPart.all database.manufacturerParts.contains

/-- Quantities are kept as texts, and it is the texts that are compared. -/
def PriceBreak.clauses : Clauses PriceBreak where
  columns := ["supplier_price_breaks.supplier_part_id", "supplier_price_breaks.quantity"]
  sharesKey a b := a.part == b.part && a.quantity.toText == b.quantity.toText
  hasParents database row := database.supplierParts.contains row.part

def StockItem.clauses : Clauses StockItem where
  columns := []
  sharesKey _ _ := false
  hasParents database item :=
    database.parts.contains item.part &&
      item.supplierPart.all database.supplierParts.contains &&
      item.customer.all database.companies.contains

def Attachment.clauses : Clauses Attachment where
  columns := []
  sharesKey _ _ := false
  hasParents database row :=
    match row.owner with
    | .company pk => database.companies.contains pk
    | .manufacturerPart pk => database.manufacturerParts.contains pk

/-- The steps that bring a database to the present schema, in the order in which they are taken. -/
def Sql.Schema.stepNames : List String := ["0001_schema"]

end SupplyCatalog
