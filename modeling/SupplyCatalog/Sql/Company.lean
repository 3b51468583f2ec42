import SupplyCatalog.Query
import SupplyCatalog.Sql.Statement

/-!
# Statements on companies
-/

namespace SupplyCatalog.Sql.CompanyTable

def table : String := "companies"

def writableColumns : List String :=
  ["name", "description", "website", "phone", "address", "email", "currency", "contact", "link",
    "image", "is_customer", "is_supplier", "is_manufacturer", "notes"]

def columns : List String := "id" :: writableColumns

def partCounts : List Selected :=
  [.countOf "manufacturer_parts"
      [.sameAs (columnOf "manufacturer_parts" "manufacturer_id") (columnOf table "id")]
      "parts_manufactured",
    .countOf "supplier_parts"
      [.sameAs (columnOf "supplier_parts" "supplier_id") (columnOf table "id")]
      "parts_supplied"]

def get (pk : Int) : Statement :=
  .select (selectColumns table columns) (some table) [hasKey table pk] []

def getCounted (pk : Int) : Statement :=
  .select (selectColumns table columns ++ partCounts) (some table) [hasKey table pk] []

def searchCondition (pattern : String) : Condition :=
  .any [.compare (columnOf table "name") .like (.ofText pattern),
    .compare (columnOf table "description") .like (.ofText pattern)]

def flagCondition (name : String) (flag : Option Bool) : List Condition :=
  optional flag fun value => hasValue (columnOf table name) (.ofBool value)

def list (query : CompanyQuery) : Statement :=
  .select (selectColumns table columns ++ partCounts) (some table)
    (flagCondition "is_customer" query.isCustomer ++ flagCondition "is_supplier" query.isSupplier ++
      flagCondition "is_manufacturer" query.isManufacturer ++
      optional query.searchPattern? searchCondition)
    [.ascending (columnOf table "name")]

/-- The values of the columns in front of the image. -/
def leadingAssignments (company : Company) : List (String × Value) :=
  [("name", .ofText company.name), ("description", .ofText company.description),
    ("website", .ofText company.website), ("phone", .ofText company.phone),
    ("address", .ofText company.address), ("email", .ofText company.email),
    ("currency", .ofText company.currency), ("contact", .ofText company.contact),
    ("link", .ofText company.link)]

def trailingAssignments (company : Company) : List (String × Value) :=
  [("is_customer", .ofBool company.isCustomer), ("is_supplier", .ofBool company.isSupplier),
    ("is_manufacturer", .ofBool company.isManufacturer), ("notes", .ofText company.notes)]

/-- The key is chosen by the database. -/
def insert (company : Company) : Statement :=
  .insert table (leadingAssignments company ++ [("image", .text company.image)] ++
    trailingAssignments company)

/-- The image is left alone; only `setImage` changes it. -/
def update (company : Company) : Statement :=
  .update table (leadingAssignments company ++ trailingAssignments company)
    [hasBareKey company.pk]

def setImage (pk : Int) (path : Option String) : Statement :=
  .update table [("image", .text path)] [hasBareKey pk]

def countNamed (name : String) (excluded : Option Int) : Statement :=
  countWhere table (hasValue (bareColumn "name") (.ofText name) :: optional excluded otherThan)

def delete (pk : Int) : Statement := .delete table [hasBareKey pk]

end SupplyCatalog.Sql.CompanyTable
