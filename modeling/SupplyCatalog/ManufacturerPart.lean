import SupplyCatalog.Company

/-!
# Manufacturer parts

A part as its manufacturer designates it, by a manufacturer part number (MPN), and the named
parameters that describe it.
-/

namespace SupplyCatalog

structure ManufacturerPart where
  pk : Int
  part : Int
  manufacturer : Int
  mpn : Option String
  description : String
  link : String
deriving DecidableEq

structure Parameter where
  pk : Int
  manufacturerPart : Int
  name : String
  value : String
  units : String
deriving DecidableEq

namespace ManufacturerPart

/-- Manufacturer and number, the number also when it is missing. -/
def prettyName (manufacturerPart : ManufacturerPart) (manufacturer : Company) : String :=
  manufacturer.name ++ " | " ++ manufacturerPart.mpn.getD ""

end ManufacturerPart

end SupplyCatalog
