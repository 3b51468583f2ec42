import SupplyCatalog.Json.Decode
import SupplyCatalog.Query

/-!
# Queries as records

What a query was read as: each filter and switch, null where it was not given, and the detail
options that follow.
-/

namespace SupplyCatalog

open Json (Decoded)
open Json.Decode

def Json.optionalBool : Option Bool → Json := .orNull .bool

def ManufacturerPartDetail.toRecord (detail : ManufacturerPartDetail) : Json :=
  .object [("part_detail", .bool detail.partDetail),
    ("manufacturer_detail", .bool detail.manufacturerDetail), ("pretty", .bool detail.pretty)]

def ParameterDetail.toRecord (detail : ParameterDetail) : Json :=
  .object [("manufacturer_part_detail", .bool detail.manufacturerPartDetail)]

def SupplierPartDetail.toRecord (detail : SupplierPartDetail) : Json :=
  .object [("part_detail", .bool detail.partDetail),
    ("supplier_detail", .bool detail.supplierDetail),
    ("manufacturer_detail", .bool detail.manufacturerDetail), ("pretty", .bool detail.pretty)]

def PriceBreakDetail.toRecord (detail : PriceBreakDetail) : Json :=
  .object [("part_detail", .bool detail.partDetail),
    ("supplier_detail", .bool detail.supplierDetail)]

namespace CompanyQuery

def toRecord (query : CompanyQuery) : Json :=
  .object [("is_customer", .optionalBool query.isCustomer),
    ("is_supplier", .optionalBool query.isSupplier),
    ("is_manufacturer", .optionalBool query.isManufacturer),
    ("search", .optionalString query.search)]

def ofRecord (record : Json) : Decoded CompanyQuery := do
  return {
    isCustomer := ← optional bool record "is_customer"
    isSupplier := ← optional bool record "is_supplier"
    isManufacturer := ← optional bool record "is_manufacturer"
    search := ← optional text record "search" }

end CompanyQuery

namespace ManufacturerPartQuery

def toRecord (query : ManufacturerPartQuery) : Json :=
  .object [("part", .optionalInt query.part), ("manufacturer", .optionalInt query.manufacturer),
    ("part_detail", .optionalBool query.partDetail),
    ("manufacturer_detail", .optionalBool query.manufacturerDetail),
    ("pretty", .optionalBool query.pretty), ("detail", query.detail.toRecord)]

def ofRecord (record : Json) : Decoded ManufacturerPartQuery := do
  return {
    part := ← optional int record "part"
    manufacturer := ← optional int record "manufacturer"
    partDetail := ← optional bool record "part_detail"
    manufacturerDetail := ← optional bool record "manufacturer_detail"
    pretty := ← optional bool record "pretty" }

end ManufacturerPartQuery

namespace ParameterQuery

def toRecord (query : ParameterQuery) : Json :=
  .object [("manufacturer_part", .optionalInt query.manufacturerPart),
    ("manufacturer_part_detail", .optionalBool query.manufacturerPartDetail),
    ("detail", query.detail.toRecord)]

def ofRecord (record : Json) : Decoded ParameterQuery := do
  return {
    manufacturerPart := ← optional int record "manufacturer_part"
    manufacturerPartDetail := ← optional bool record "manufacturer_part_detail" }

end ParameterQuery

namespace SupplierPartQuery

def toRecord (query : SupplierPartQuery) : Json :=
  .object [("part", .optionalInt query.part), ("supplier", .optionalInt query.supplier),
    ("manufacturer", .optionalInt query.manufacturer), ("brief", .optionalBool query.brief),
    ("part_detail", .optionalBool query.partDetail),
    ("supplier_detail", .optionalBool query.supplierDetail),
    ("manufacturer_detail", .optionalBool query.manufacturerDetail),
    ("pretty", .optionalBool query.pretty), ("detail", query.detail.toRecord)]

def ofRecord (record : Json) : Decoded SupplierPartQuery := do
  return {
    part := ← optional int record "part"
    supplier := ← optional int record "supplier"
    manufacturer := ← optional int record "manufacturer"
    brief := ← optional bool record "brief"
    partDetail := ← optional bool record "part_detail"
    supplierDetail := ← optional bool record "supplier_detail"
    manufacturerDetail := ← optional bool record "manufacturer_detail"
    pretty := ← optional bool record "pretty" }

end SupplierPartQuery

namespace PriceBreakQuery

def toRecord (query : PriceBreakQuery) : Json :=
  .object [("part", .optionalInt query.part), ("part_detail", .optionalBool query.partDetail),
    ("supplier_detail", .optionalBool query.supplierDetail), ("detail", query.detail.toRecord)]

def ofRecord (record : Json) : Decoded PriceBreakQuery := do
  return {
    part := ← optional int record "part"
    partDetail := ← optional bool record "part_detail"
    supplierDetail := ← optional bool record "supplier_detail" }

end PriceBreakQuery

def AttachmentQuery.toRecord (ownerField : String) (query : AttachmentQuery) : Json :=
  .object [(ownerField, .optionalInt query.owner)]

end SupplyCatalog
