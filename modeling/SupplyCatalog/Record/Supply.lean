import SupplyCatalog.Attachment
import SupplyCatalog.Record.Catalog
import SupplyCatalog.StockItem
import SupplyCatalog.View.SupplierPart

/-!
# Supply rows as records

Supplier parts, price breaks, attachments and stock items as JSON objects.
-/

namespace SupplyCatalog

open Json (Decoded)
open Json.Decode

namespace SupplierPart

def ofRecord (record : Json) : Decoded SupplierPart := do
  return {
    pk := ← keyField record "pk"
    part := ← keyField record "part"
    supplier := ← keyField record "supplier"
    manufacturerPart := ← optional int record "manufacturer_part"
    sku := ← textField record "SKU"
    description := ← textField record "description"
    link := ← textField record "link"
    note := ← textField record "note"
    packaging := ← textField record "packaging"
    packSize := ← orElse decimal Decimal.one record "pack_size"
    available := ← orElse decimal Decimal.zero record "available"
    availabilityUpdated := ← optional instant record "availability_updated"
    barcodeHash := ← textField record "barcode_hash"
    updated := ← optional instant record "updated" }

def toRecord (row : SupplierPart) : Json :=
  .object [("pk", .int row.pk), ("part", .int row.part), ("supplier", .int row.supplier),
    ("manufacturer_part", .optionalInt row.manufacturerPart), ("SKU", .string row.sku),
    ("description", .string row.description), ("link", .string row.link),
    ("note", .string row.note), ("packaging", .string row.packaging),
    ("pack_size", View.decimal row.packSize), ("available", View.decimal row.available),
    ("availability_updated", View.instant row.availabilityUpdated),
    ("barcode_hash", .string row.barcodeHash), ("updated", View.instant row.updated)]

end SupplierPart

namespace PriceBreak

def ofRecord (record : Json) : Decoded PriceBreak := do
  return {
    pk := ← keyField record "pk"
    part := ← keyField record "part"
    quantity := ← orElse decimal Decimal.one record "quantity"
    price := ← optional decimal record "price"
    priceCurrency := ← orElse text "USD" record "price_currency"
    updated := ← optional instant record "updated" }

def toRecord (row : PriceBreak) : Json :=
  .object [("pk", .int row.pk), ("part", .int row.part), ("quantity", View.decimal row.quantity),
    ("price", View.optionalDecimal row.price), ("price_currency", .string row.priceCurrency),
    ("updated", View.instant row.updated)]

end PriceBreak

/-- The owner is the company where both kinds are named. -/
def AttachmentOwner.ofRecord (record : Json) : Decoded AttachmentOwner := do
  match ← optional int record "company", ← optional int record "manufacturer_part" with
  | some pk, _ => return .company pk
  | none, some pk => return .manufacturerPart pk
  | none, none => return .company 1

def Attachment.ofRecord (record : Json) : Decoded Attachment := do
  return {
    pk := ← keyField record "pk"
    owner := ← AttachmentOwner.ofRecord record
    path := ← optional text record "attachment"
    link := ← textField record "link"
    comment := ← textField record "comment"
    uploadDate := ← orElse date ⟨2024, 1, 2⟩ record "upload_date"
    user := ← optional int record "user" }

def AttachmentKind.ofName : String → Decoded AttachmentKind
  | "company" => .ok .company
  | "manufacturer_part" => .ok .manufacturerPart
  | _ => .error "expected a kind of attachment"

def StockItem.ofRecord (record : Json) : Decoded StockItem := do
  return {
    pk := ← keyField record "pk"
    part := ← keyField record "part"
    supplierPart := ← optional int record "supplier_part"
    quantity := ← orElse real 0.0 record "quantity"
    isBuilding := ← flagField false record "is_building"
    customer := ← optional int record "customer" }

def SupplierPartBundle.ofRecord (record : Json) : Decoded SupplierPartBundle := do
  return {
    supplierPart := ← SupplierPart.ofRecord (← need record "supplier_part")
    part := ← Part.ofRecord (← need record "part")
    supplier := ← Company.ofRecord (← need record "supplier")
    linked := ← optional ManufacturerPartBundle.ofRecord record "linked"
    inStock := ← optional real record "in_stock" }

end SupplyCatalog
