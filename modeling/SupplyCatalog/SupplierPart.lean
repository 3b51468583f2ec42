import SupplyCatalog.ManufacturerPart
import SupplyCatalog.Part
import SupplyCatalog.Time.Instant

/-!
# Supplier parts and price breaks

A part as one supplier sells it, under a stock keeping unit (SKU) of the supplier, and its unit
prices from given quantities upward.
-/

namespace SupplyCatalog

structure SupplierPart where
  pk : Int
  part : Int
  supplier : Int
  manufacturerPart : Option Int
  sku : String
  description : String
  link : String
  note : String
  packaging : String
  packSize : Decimal
  available : Decimal
  availabilityUpdated : Option Instant
  barcodeHash : String
  updated : Option Instant
deriving DecidableEq

/-- The unit price of a supplier part from a quantity upward. -/
structure PriceBreak where
  pk : Int
  /-- The supplier part that the price belongs to. -/
  part : Int
  quantity : Decimal
  price : Option Decimal
  priceCurrency : String
  updated : Option Instant
deriving DecidableEq

namespace SupplierPart

def url (supplierPart : SupplierPart) : String := s!"/supplier-part/{supplierPart.pk}/"

/-- Takes over the quantity that the supplier reports, with the time of the report. No other
operation touches either. -/
def reportAvailable (supplierPart : SupplierPart) (quantity : Decimal) (now : Instant) :
    Except Violation SupplierPart :=
  match Check.minValue Decimal.zero quantity with
  | .error cause => .error ⟨"available", cause⟩
  | .ok () => .ok { supplierPart with available := quantity, availabilityUpdated := some now }

/-- A linked manufacturer part has to designate the same part. -/
def checkLink (supplierPart : SupplierPart) (linked : ManufacturerPart) :
    Except Violation Unit :=
  if linked.part = supplierPart.part then .ok ()
  else .error ⟨"manufacturer_part",
    .rule "Linked manufacturer part must reference the same base part"⟩

/-- Name of the manufacturer, and its part number unless that is empty. -/
def manufacturerText : Option (ManufacturerPart × Company) → List String
  | none => []
  | some (linked, company) =>
      match linked.mpn with
      | some mpn => if mpn = "" then [company.name] else [company.name, mpn]
      | none => [company.name]

/-- Internal number of the part, supplier, stock keeping unit, and what is linked. The internal
number is left out when it is empty, the link when its text is. -/
def prettyName (supplierPart : SupplierPart) (part : Part) (supplier : Company)
    (linked : Option (ManufacturerPart × Company)) : String :=
  let manufacturer := String.intercalate " | " (manufacturerText linked)
  String.intercalate " | " ((if part.ipn = "" then [] else [part.ipn]) ++
    [supplier.name, supplierPart.sku] ++ (if manufacturer = "" then [] else [manufacturer]))

end SupplierPart

end SupplyCatalog
