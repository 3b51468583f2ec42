import SupplyCatalog.Number.DecimalReal
import SupplyCatalog.View.ManufacturerPart

/-!
# Views of supplier parts and price breaks

A switched-on manufacturer is null when nothing is linked; a switched-off one is absent. The
supplier part inside a price break is always brief and never shows the quantity in stock.
-/

namespace SupplyCatalog.View

def instant : Option Instant → Json
  | some time => .string time.toText
  | none => .null

def decimal (value : Decimal) : Json := .string value.toText

def optionalDecimal : Option Decimal → Json
  | some value => decimal value
  | none => .null

def inStock : Option Float → List (String × Json)
  | some quantity => [("in_stock", .real quantity)]
  | none => []

def linkedManufacturer : Option ManufacturerPartBundle → Json
  | some linked => companyBrief linked.manufacturer
  | none => .null

def linkedPart : Option ManufacturerPartBundle → Json
  | some linked => manufacturerPart linked ManufacturerPartDetail.standard
  | none => .null

def supplierPartFields (bundle : SupplierPartBundle) (detail : SupplierPartDetail) :
    List (String × Json) :=
  let row := bundle.supplierPart
  let linked := bundle.linked
  [("available", decimal row.available),
    ("availability_updated", instant row.availabilityUpdated),
    ("description", .string row.description)] ++
  inStock bundle.inStock ++
  [("link", .string row.link),
    ("manufacturer", .optionalInt (linked.map (·.manufacturer.pk)))] ++
  shown detail.manufacturerDetail "manufacturer_detail" (linkedManufacturer linked) ++
  [("manufacturer_part", .optionalInt row.manufacturerPart)] ++
  shown detail.manufacturerDetail "manufacturer_part_detail" (linkedPart linked) ++
  [("MPN", .optionalString (linked.bind (·.manufacturerPart.mpn))),
    ("note", .string row.note), ("pk", .int row.pk),
    ("barcode_hash", .string row.barcodeHash), ("packaging", .string row.packaging),
    ("pack_size", .real row.packSize.toReal), ("part", .int row.part)] ++
  shown detail.partDetail "part_detail" (part bundle.part) ++
  shown detail.pretty "pretty_name" (.string (row.prettyName bundle.part bundle.supplier
    (linked.map fun linked => (linked.manufacturerPart, linked.manufacturer)))) ++
  [("SKU", .string row.sku), ("supplier", .int row.supplier)] ++
  shown detail.supplierDetail "supplier_detail" (companyBrief bundle.supplier) ++
  [("url", .string row.url), ("updated", instant row.updated)]

def supplierPart (bundle : SupplierPartBundle) (detail : SupplierPartDetail) : Json :=
  .object (supplierPartFields bundle detail)

def priceBreak (bundle : PriceBreakBundle) (detail : PriceBreakDetail) : Json :=
  let row := bundle.priceBreak
  let supplier := bundle.supplierPart.supplier
  .object ([("pk", .int row.pk), ("part", .int row.part)] ++
    shown detail.partDetail "part_detail"
      (supplierPart { bundle.supplierPart with inStock := none } SupplierPartDetail.brief) ++
    [("quantity", decimal row.quantity), ("price", optionalDecimal row.price),
      ("price_currency", .string row.priceCurrency), ("supplier", .int supplier.pk)] ++
    shown detail.supplierDetail "supplier_detail" (companyBrief supplier) ++
    [("updated", instant row.updated)])

end SupplyCatalog.View
