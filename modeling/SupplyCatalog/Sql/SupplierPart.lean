import SupplyCatalog.Query
import SupplyCatalog.Sql.Part

/-!
# Statements on supplier parts and price breaks

The available quantity and its time are written by `setAvailable` alone.
-/

namespace SupplyCatalog.Sql

namespace SupplierPartTable

def table : String := "supplier_parts"

def columns : List String :=
  ["id", "part_id", "supplier_id", "manufacturer_part_id", "sku", "description", "link", "note",
    "packaging", "pack_size", "available", "availability_updated", "barcode_hash", "updated"]

def inStock : Selected :=
  .sumOf StockTable.table "quantity"
    [.sameAs (columnOf StockTable.table "supplier_part_id") (columnOf table "id"),
      StockTable.inStock]
    (.double (some 0.0)) "in_stock"

def selected (withStock : Bool) : List Selected :=
  selectColumns table columns ++ (if withStock then [inStock] else [])

def get (pk : Int) (withStock : Bool) : Statement :=
  .select (selected withStock) (some table) [hasKey table pk] []

def list (query : SupplierPartQuery) : Statement :=
  .select (selected true) (some table)
    (optional query.part (fun part => hasValue (columnOf table "part_id") (.ofKey part)) ++
      optional query.supplier (fun supplier =>
        hasValue (columnOf table "supplier_id") (.ofKey supplier)) ++
      optional query.manufacturer (fun manufacturer =>
        .keyOf (columnOf table "manufacturer_part_id") "manufacturer_parts" "manufacturer_id"
          (.ofKey manufacturer)))
    [.ascending (columnOf table "id")]

def countDuplicates (row : SupplierPart) : Statement :=
  countWhere table
    [hasValue (bareColumn "part_id") (.ofKey row.part),
      hasValue (bareColumn "supplier_id") (.ofKey row.supplier),
      hasValue (bareColumn "sku") (.ofText row.sku), otherThan row.pk]

def editable (row : SupplierPart) : List (String × Value) :=
  [("part_id", .ofKey row.part), ("supplier_id", .ofKey row.supplier),
    ("manufacturer_part_id", .int64 row.manufacturerPart), ("sku", .ofText row.sku),
    ("description", .ofText row.description), ("link", .ofText row.link),
    ("note", .ofText row.note), ("packaging", .ofText row.packaging),
    ("pack_size", .ofDecimal row.packSize)]

/-- A new row starts with nothing available, whatever the record says. -/
def insert (row : SupplierPart) : Statement :=
  .insert table (editable row ++
    [("barcode_hash", .ofText row.barcodeHash), ("updated", .ofOptionalInstant row.updated)])

def update (row : SupplierPart) : Statement :=
  .update table (editable row ++ [("updated", .ofOptionalInstant row.updated)])
    [hasBareKey row.pk]

def setAvailable (pk : Int) (quantity : Decimal) (time : Instant) : Statement :=
  .update table
    [("available", .ofDecimal quantity), ("availability_updated", .ofOptionalInstant (some time))]
    [hasBareKey pk]

def setManufacturerPart (pk : Int) (manufacturerPart : Option Int) : Statement :=
  .update table [("manufacturer_part_id", .int64 manufacturerPart)] [hasBareKey pk]

def delete (pk : Int) : Statement := .delete table [hasBareKey pk]

end SupplierPartTable

namespace PriceBreakTable

def table : String := "supplier_price_breaks"

def columns : List String :=
  ["id", "supplier_part_id", "quantity", "price", "price_currency", "updated"]

def selectWhere (conditions : List Condition) (order : List Order) : Statement :=
  .select (selectColumns table columns) (some table) conditions order

def get (pk : Int) : Statement := selectWhere [hasKey table pk] []

def list (query : PriceBreakQuery) : Statement :=
  selectWhere
    (optional query.part fun part => hasValue (columnOf table "supplier_part_id") (.ofKey part))
    [.ascending (columnOf table "supplier_part_id"), .ascendingNumber (columnOf table "quantity")]

def countDuplicates (row : PriceBreak) : Statement :=
  countWhere table
    [hasValue (bareColumn "supplier_part_id") (.ofKey row.part),
      hasValue (bareColumn "quantity") (.ofDecimal row.quantity), otherThan row.pk]

def assignments (row : PriceBreak) : List (String × Value) :=
  [("supplier_part_id", .ofKey row.part), ("quantity", .ofDecimal row.quantity),
    ("price", .ofOptionalDecimal row.price), ("price_currency", .ofText row.priceCurrency),
    ("updated", .ofOptionalInstant row.updated)]

def insert (row : PriceBreak) : Statement := .insert table (assignments row)

def update (row : PriceBreak) : Statement :=
  .update table (assignments row) [hasBareKey row.pk]

def delete (pk : Int) : Statement := .delete table [hasBareKey pk]

end PriceBreakTable

end SupplyCatalog.Sql
