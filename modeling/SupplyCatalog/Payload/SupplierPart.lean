import SupplyCatalog.Payload.Basic
import SupplyCatalog.SupplierPart

/-!
# Payloads of supplier parts and price breaks

Besides its own fields, a request for a supplier part may report the available quantity, and one
that creates a supplier part may name a manufacturer and a part number to link to. Both are handed
on apart from the fields.
-/

namespace SupplyCatalog

structure SupplierPartChanges where
  part : Option Int
  supplier : Option Int
  manufacturerPart : Option (Option Int)
  sku : Option String
  description : Option String
  link : Option String
  note : Option String
  packaging : Option String
  packSize : Option Decimal
deriving DecidableEq

namespace SupplierPartChanges

/-- Puts the given fields in place; the available quantity and its time are not among them. -/
def applyTo (changes : SupplierPartChanges) (row : SupplierPart) : SupplierPart :=
  { row with
    part := changes.part.getD row.part
    supplier := changes.supplier.getD row.supplier
    manufacturerPart := changes.manufacturerPart.getD row.manufacturerPart
    sku := changes.sku.getD row.sku
    description := changes.description.getD row.description
    link := changes.link.getD row.link
    note := changes.note.getD row.note
    packaging := changes.packaging.getD row.packaging
    packSize := changes.packSize.getD row.packSize }

def blank : SupplierPart where
  pk := 0
  part := 0
  supplier := 0
  manufacturerPart := none
  sku := ""
  description := ""
  link := ""
  note := ""
  packaging := ""
  packSize := Decimal.one
  available := Decimal.zero
  availabilityUpdated := none
  barcodeHash := ""
  updated := none

def create (changes : SupplierPartChanges) : SupplierPart := changes.applyTo blank

end SupplierPartChanges

structure ManufacturerLink where
  manufacturer : Int
  mpn : String
deriving DecidableEq

structure SupplierPartInput where
  changes : SupplierPartChanges
  /-- The quantity reported, when the request carries one. -/
  available : Option Decimal
  manufacturerLink : Option ManufacturerLink
deriving DecidableEq

namespace SupplierPartInput

def packSize (value : Json) : Checked Decimal := do
  let size ← Value.decimal 15 5 value
  if Decimal.zero < size then .ok size
  else .error (.rule "Pack size must be greater than zero")

def readChanges (payload : Payload) : Noted SupplierPartChanges := do
  let packSize ← payload.field "pack_size" false packSize
  let part ← payload.pk "part" true
  let supplier ← payload.pk "supplier" true
  let manufacturerPart ← payload.nullablePk "manufacturer_part"
  let sku ← payload.requiredText "SKU" 100
  let description ← payload.text "description" 250
  let link ← payload.link "link" 200
  let note ← payload.text "note" 100
  let packaging ← payload.text "packaging" 50
  return { part, supplier, manufacturerPart, sku, description, link, note, packaging, packSize }

def readAvailable (payload : Payload) : Noted (Option Decimal) :=
  payload.field "available" false (Value.decimalAtLeast Decimal.zero 10 3)

/-- The link asked for: both keys have to be given, and are read only then. -/
def readLink (payload : Payload) : Noted (Option ManufacturerLink) :=
  if Value.isGiven (payload.raw "manufacturer") && Value.isGiven (payload.raw "MPN") then do
    match ← payload.pk "manufacturer" false with
    | none => return none
    | some manufacturer =>
        let mpn ← payload.text "MPN" 100
        return mpn.map fun mpn => ⟨manufacturer, mpn⟩
  else pure none

def readCreate (payload : Payload) : Noted SupplierPartInput := do
  let changes ← readChanges payload
  let available ← readAvailable payload
  let manufacturerLink ← readLink payload
  return { changes, available, manufacturerLink }

/-- An update never asks for a link. -/
def readUpdate (payload : Payload) : Noted SupplierPartInput := do
  let changes ← readChanges payload
  let available ← readAvailable payload
  return { changes, available, manufacturerLink := none }

def parseCreate (body : Json) : Except ServiceError SupplierPartInput := do
  (readCreate (← Payload.ofJson body false)).finish

def parseUpdate (isPartial : Bool) (body : Json) : Except ServiceError SupplierPartInput := do
  (readUpdate (← Payload.ofJson body isPartial)).finish

end SupplierPartInput

structure PriceBreakChanges where
  part : Option Int
  quantity : Option Decimal
  price : Option (Option Decimal)
  priceCurrency : Option String
deriving DecidableEq

namespace PriceBreakChanges

def read (table : CurrencyTable) (payload : Payload) : Noted PriceBreakChanges := do
  let quantity ← payload.field "quantity" true (Value.decimalAtLeast Decimal.one 15 5)
  let part ← payload.pk "part" true
  let price ← payload.nullable "price" true (Value.decimal 19 6)
  let priceCurrency ← payload.currency "price_currency" false table
  return { part, quantity, price, priceCurrency }

def parse (table : CurrencyTable) (isPartial : Bool) (body : Json) :
    Except ServiceError PriceBreakChanges := do
  (read table (← Payload.ofJson body isPartial)).finish

def applyTo (changes : PriceBreakChanges) (row : PriceBreak) : PriceBreak :=
  { row with
    part := changes.part.getD row.part
    quantity := changes.quantity.getD row.quantity
    price := changes.price.getD row.price
    priceCurrency := changes.priceCurrency.getD row.priceCurrency }

/-- Without a currency of its own a price is in the default currency of the table. -/
def blank (table : CurrencyTable) : PriceBreak where
  pk := 0
  part := 0
  quantity := Decimal.one
  price := none
  priceCurrency := table.defaultCode
  updated := none

def create (changes : PriceBreakChanges) (table : CurrencyTable) : PriceBreak :=
  changes.applyTo (blank table)

end PriceBreakChanges

end SupplyCatalog
