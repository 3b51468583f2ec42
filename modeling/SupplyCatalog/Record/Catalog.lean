import SupplyCatalog.Bundle
import SupplyCatalog.Json.Decode

/-!
# Catalogue rows as records

The rows of companies, parts, manufacturer parts and their parameters as JSON objects with one
field for each column. Reading a record fills in what it leaves out; writing one gives every field.
-/

namespace SupplyCatalog

open Json (Decoded)
open Json.Decode

namespace Company

def ofRecord (record : Json) : Decoded Company := do
  return {
    pk := ← keyField record "pk"
    name := ← textField record "name"
    description := ← textField record "description"
    website := ← textField record "website"
    phone := ← textField record "phone"
    address := ← textField record "address"
    email := ← textField record "email"
    currency := ← orElse text "USD" record "currency"
    contact := ← textField record "contact"
    link := ← textField record "link"
    image := ← optional text record "image"
    isCustomer := ← flagField false record "is_customer"
    isSupplier := ← flagField false record "is_supplier"
    isManufacturer := ← flagField false record "is_manufacturer"
    notes := ← textField record "notes" }

def toRecord (row : Company) : Json :=
  .object [("pk", .int row.pk), ("name", .string row.name),
    ("description", .string row.description), ("website", .string row.website),
    ("phone", .string row.phone), ("address", .string row.address), ("email", .string row.email),
    ("currency", .string row.currency), ("contact", .string row.contact),
    ("link", .string row.link), ("image", .optionalString row.image),
    ("is_customer", .bool row.isCustomer), ("is_supplier", .bool row.isSupplier),
    ("is_manufacturer", .bool row.isManufacturer), ("notes", .string row.notes)]

end Company

namespace Part

def ofRecord (record : Json) : Decoded Part := do
  return {
    pk := ← keyField record "pk"
    name := ← textField record "name"
    ipn := ← textField record "IPN"
    revision := ← textField record "revision"
    description := ← textField record "description"
    image := ← optional text record "image"
    units := ← textField record "units"
    active := ← flagField true record "active"
    assembly := ← flagField false record "assembly"
    purchaseable := ← flagField true record "purchaseable"
    salable := ← flagField false record "salable"
    trackable := ← flagField false record "trackable"
    isVirtual := ← flagField false record "virtual" }

def toRecord (row : Part) : Json :=
  .object [("pk", .int row.pk), ("name", .string row.name), ("IPN", .string row.ipn),
    ("revision", .string row.revision), ("description", .string row.description),
    ("image", .optionalString row.image), ("units", .string row.units),
    ("active", .bool row.active), ("assembly", .bool row.assembly),
    ("purchaseable", .bool row.purchaseable), ("salable", .bool row.salable),
    ("trackable", .bool row.trackable), ("virtual", .bool row.isVirtual)]

end Part

namespace ManufacturerPart

def ofRecord (record : Json) : Decoded ManufacturerPart := do
  return {
    pk := ← keyField record "pk"
    part := ← keyField record "part"
    manufacturer := ← keyField record "manufacturer"
    mpn := ← optional text record "MPN"
    description := ← textField record "description"
    link := ← textField record "link" }

def toRecord (row : ManufacturerPart) : Json :=
  .object [("pk", .int row.pk), ("part", .int row.part), ("manufacturer", .int row.manufacturer),
    ("MPN", .optionalString row.mpn), ("description", .string row.description),
    ("link", .string row.link)]

end ManufacturerPart

namespace Parameter

def ofRecord (record : Json) : Decoded Parameter := do
  return {
    pk := ← keyField record "pk"
    manufacturerPart := ← keyField record "manufacturer_part"
    name := ← textField record "name"
    value := ← textField record "value"
    units := ← textField record "units" }

def toRecord (row : Parameter) : Json :=
  .object [("pk", .int row.pk), ("manufacturer_part", .int row.manufacturerPart),
    ("name", .string row.name), ("value", .string row.value), ("units", .string row.units)]

end Parameter

def ManufacturerPartBundle.ofRecord (record : Json) : Decoded ManufacturerPartBundle := do
  return {
    manufacturerPart := ← ManufacturerPart.ofRecord (← need record "manufacturer_part")
    part := ← Part.ofRecord (← need record "part")
    manufacturer := ← Company.ofRecord (← need record "manufacturer") }

end SupplyCatalog
