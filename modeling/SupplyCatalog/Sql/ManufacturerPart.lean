import SupplyCatalog.Query
import SupplyCatalog.Sql.Statement

/-!
# Statements on manufacturer parts and their parameters
-/

namespace SupplyCatalog.Sql

namespace ManufacturerPartTable

def table : String := "manufacturer_parts"

def columns : List String := ["id", "part_id", "manufacturer_id", "mpn", "description", "link"]

def selectWhere (conditions : List Condition) (order : List Order) : Statement :=
  .select (selectColumns table columns) (some table) conditions order

def get (pk : Int) : Statement := selectWhere [hasKey table pk] []

def find (part manufacturer : Int) (mpn : String) : Statement :=
  selectWhere
    [hasValue (columnOf table "part_id") (.ofKey part),
      hasValue (columnOf table "manufacturer_id") (.ofKey manufacturer),
      hasValue (columnOf table "mpn") (.ofText mpn)] []

def list (query : ManufacturerPartQuery) : Statement :=
  selectWhere
    (optional query.part (fun part => hasValue (columnOf table "part_id") (.ofKey part)) ++
      optional query.manufacturer (fun manufacturer =>
        hasValue (columnOf table "manufacturer_id") (.ofKey manufacturer)))
    [.ascending (columnOf table "id")]

def mpnCondition (mpn : Option String) : Condition :=
  match mpn with
  | some mpn => hasValue (bareColumn "mpn") (.ofText mpn)
  | none => .isNull (bareColumn "mpn")

/-- Counts other rows of the same part, manufacturer and part number; two missing numbers count
as the same. -/
def countDuplicates (row : ManufacturerPart) : Statement :=
  countWhere table
    [hasValue (bareColumn "part_id") (.ofKey row.part),
      hasValue (bareColumn "manufacturer_id") (.ofKey row.manufacturer), otherThan row.pk,
      mpnCondition row.mpn]

def assignments (row : ManufacturerPart) : List (String × Value) :=
  [("part_id", .ofKey row.part), ("manufacturer_id", .ofKey row.manufacturer),
    ("mpn", .text row.mpn), ("description", .ofText row.description), ("link", .ofText row.link)]

def insert (row : ManufacturerPart) : Statement := .insert table (assignments row)

def update (row : ManufacturerPart) : Statement :=
  .update table (assignments row) [hasBareKey row.pk]

def delete (pk : Int) : Statement := .delete table [hasBareKey pk]

end ManufacturerPartTable

namespace ParameterTable

def table : String := "manufacturer_part_parameters"

def columns : List String := ["id", "manufacturer_part_id", "name", "value", "units"]

def selectWhere (conditions : List Condition) (order : List Order) : Statement :=
  .select (selectColumns table columns) (some table) conditions order

def get (pk : Int) : Statement := selectWhere [hasKey table pk] []

def list (query : ParameterQuery) : Statement :=
  selectWhere
    (optional query.manufacturerPart fun pk =>
      hasValue (columnOf table "manufacturer_part_id") (.ofKey pk))
    [.ascending (columnOf table "name")]

def countDuplicates (row : Parameter) : Statement :=
  countWhere table
    [hasValue (bareColumn "manufacturer_part_id") (.ofKey row.manufacturerPart),
      hasValue (bareColumn "name") (.ofText row.name), otherThan row.pk]

def assignments (row : Parameter) : List (String × Value) :=
  [("manufacturer_part_id", .ofKey row.manufacturerPart), ("name", .ofText row.name),
    ("value", .ofText row.value), ("units", .ofText row.units)]

def insert (row : Parameter) : Statement := .insert table (assignments row)

def update (row : Parameter) : Statement :=
  .update table (assignments row) [hasBareKey row.pk]

def delete (pk : Int) : Statement := .delete table [hasBareKey pk]

end ParameterTable

end SupplyCatalog.Sql
