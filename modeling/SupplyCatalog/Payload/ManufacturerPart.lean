import SupplyCatalog.ManufacturerPart
import SupplyCatalog.Payload.Basic

/-!
# Payloads of manufacturer parts and their parameters
-/

namespace SupplyCatalog

structure ManufacturerPartChanges where
  part : Option Int
  manufacturer : Option Int
  mpn : Option (Option String)
  description : Option String
  link : Option String
deriving DecidableEq

namespace ManufacturerPartChanges

def read (payload : Payload) : Noted ManufacturerPartChanges := do
  let part ← payload.pk "part" true
  let manufacturer ← payload.pk "manufacturer" true
  let mpn ← payload.nullableText "MPN" 100
  let description ← payload.text "description" 250
  let link ← payload.link "link" 200
  return { part, manufacturer, mpn, description, link }

def parse (isPartial : Bool) (body : Json) : Except ServiceError ManufacturerPartChanges := do
  (read (← Payload.ofJson body isPartial)).finish

def applyTo (changes : ManufacturerPartChanges) (row : ManufacturerPart) : ManufacturerPart :=
  { row with
    part := changes.part.getD row.part
    manufacturer := changes.manufacturer.getD row.manufacturer
    mpn := changes.mpn.getD row.mpn
    description := changes.description.getD row.description
    link := changes.link.getD row.link }

def blank : ManufacturerPart where
  pk := 0
  part := 0
  manufacturer := 0
  mpn := none
  description := ""
  link := ""

def create (changes : ManufacturerPartChanges) : ManufacturerPart := changes.applyTo blank

end ManufacturerPartChanges

structure ParameterChanges where
  manufacturerPart : Option Int
  name : Option String
  value : Option String
  units : Option String
deriving DecidableEq

namespace ParameterChanges

def read (payload : Payload) : Noted ParameterChanges := do
  let manufacturerPart ← payload.pk "manufacturer_part" true
  let name ← payload.requiredText "name" 500
  let value ← payload.requiredText "value" 500
  let units ← payload.text "units" 64
  return { manufacturerPart, name, value, units }

def parse (isPartial : Bool) (body : Json) : Except ServiceError ParameterChanges := do
  (read (← Payload.ofJson body isPartial)).finish

def applyTo (changes : ParameterChanges) (row : Parameter) : Parameter :=
  { row with
    manufacturerPart := changes.manufacturerPart.getD row.manufacturerPart
    name := changes.name.getD row.name
    value := changes.value.getD row.value
    units := changes.units.getD row.units }

def blank : Parameter where
  pk := 0
  manufacturerPart := 0
  name := ""
  value := ""
  units := ""

def create (changes : ParameterChanges) : Parameter := changes.applyTo blank

end ParameterChanges

end SupplyCatalog
