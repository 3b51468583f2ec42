import SupplyCatalog.Sql.Statement
import SupplyCatalog.StockItem

/-!
# Statements on parts and stock items

Parts and stock are only read here; the insertions serve to fill a database.
-/

namespace SupplyCatalog.Sql

namespace PartTable

def table : String := "parts"

def columns : List String :=
  ["id", "name", "ipn", "revision", "description", "image", "units", "active", "assembly",
    "purchaseable", "salable", "trackable", "is_virtual"]

def get (pk : Int) : Statement :=
  .select (selectColumns table columns) (some table) [hasKey table pk] []

def insert (part : Part) : Statement :=
  .insert table
    [("name", .ofText part.name), ("ipn", .ofText part.ipn), ("revision", .ofText part.revision),
      ("description", .ofText part.description), ("image", .text part.image),
      ("units", .ofText part.units), ("active", .ofBool part.active),
      ("assembly", .ofBool part.assembly), ("purchaseable", .ofBool part.purchaseable),
      ("salable", .ofBool part.salable), ("trackable", .ofBool part.trackable),
      ("is_virtual", .ofBool part.isVirtual)]

end PartTable

namespace StockTable

def table : String := "stock_items"

/-- The key is chosen by the database. -/
def insert (item : StockItem) : Statement :=
  .insert table
    [("part_id", .ofKey item.part), ("supplier_part_id", .int64 item.supplierPart),
      ("quantity", .double (some item.quantity)), ("is_building", .ofBool item.isBuilding),
      ("customer_id", .int64 item.customer)]

/-- Stock that counts: a positive quantity that is neither being built nor with a customer. -/
def inStock : Condition :=
  .all [.compare (columnOf table "quantity") .greater (.int32 (some 0)),
    hasValue (columnOf table "is_building") (.ofBool false),
    .isNull (columnOf table "customer_id")]

def inStockFilter : Statement := .select [.condition inStock] none [] []

end StockTable

end SupplyCatalog.Sql
