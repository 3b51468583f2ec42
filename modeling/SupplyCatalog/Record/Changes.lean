import SupplyCatalog.Payload.Attachment
import SupplyCatalog.Payload.Company
import SupplyCatalog.Payload.ManufacturerPart
import SupplyCatalog.Payload.SupplierPart
import SupplyCatalog.Record.Supply

/-!
# Changes as records

What a payload changes, as a JSON object with the fields that it gives and no others.
-/

namespace SupplyCatalog

open Json (given)

def CompanyChanges.toRecord (changes : CompanyChanges) : Json :=
  .object (given "name" .string changes.name ++
    given "description" .string changes.description ++
    given "website" .string changes.website ++ given "phone" .string changes.phone ++
    given "address" .string changes.address ++ given "email" .string changes.email ++
    given "currency" .string changes.currency ++ given "contact" .string changes.contact ++
    given "link" .string changes.link ++ given "is_customer" .bool changes.isCustomer ++
    given "is_supplier" .bool changes.isSupplier ++
    given "is_manufacturer" .bool changes.isManufacturer ++
    given "notes" .string changes.notes ++ given "remote_image" .string changes.remoteImage ++
    [("clear_image", .bool changes.clearImage)])

def ManufacturerPartChanges.toRecord (changes : ManufacturerPartChanges) : Json :=
  .object (given "part" .int changes.part ++ given "manufacturer" .int changes.manufacturer ++
    given "MPN" .optionalString changes.mpn ++
    given "description" .string changes.description ++ given "link" .string changes.link)

def ParameterChanges.toRecord (changes : ParameterChanges) : Json :=
  .object (given "manufacturer_part" .int changes.manufacturerPart ++
    given "name" .string changes.name ++ given "value" .string changes.value ++
    given "units" .string changes.units)

def SupplierPartChanges.toRecord (changes : SupplierPartChanges) : Json :=
  .object (given "part" .int changes.part ++ given "supplier" .int changes.supplier ++
    given "manufacturer_part" .optionalInt changes.manufacturerPart ++
    given "SKU" .string changes.sku ++ given "description" .string changes.description ++
    given "link" .string changes.link ++ given "note" .string changes.note ++
    given "packaging" .string changes.packaging ++
    given "pack_size" View.decimal changes.packSize)

def PriceBreakChanges.toRecord (changes : PriceBreakChanges) : Json :=
  .object (given "part" .int changes.part ++ given "quantity" View.decimal changes.quantity ++
    given "price" View.optionalDecimal changes.price ++
    given "price_currency" .string changes.priceCurrency)

def ManufacturerLink.toRecord (link : ManufacturerLink) : Json :=
  .object [("manufacturer", .int link.manufacturer), ("MPN", .string link.mpn)]

def UploadedFile.toRecord (file : UploadedFile) : Json :=
  .object [("filename", .string file.name), ("hex", .string (Text.lowerHex file.content))]

def AttachmentInput.toRecord (input : AttachmentInput) : Json :=
  .object [("owner", .int input.owner), ("link", .string input.link),
    ("comment", .string input.comment), ("file", .orNull UploadedFile.toRecord input.file)]

end SupplyCatalog
