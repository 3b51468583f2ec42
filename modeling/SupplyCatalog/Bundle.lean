import SupplyCatalog.SupplierPart

/-!
# Bundles

A row together with the rows that it refers to, as it is shown to clients.
-/

namespace SupplyCatalog

structure CompanyBundle where
  company : Company
  partsSupplied : Nat
  partsManufactured : Nat
deriving DecidableEq

structure ManufacturerPartBundle where
  manufacturerPart : ManufacturerPart
  part : Part
  manufacturer : Company
deriving DecidableEq

structure ParameterBundle where
  parameter : Parameter
  linked : ManufacturerPartBundle
deriving DecidableEq

structure SupplierPartBundle where
  supplierPart : SupplierPart
  part : Part
  supplier : Company
  linked : Option ManufacturerPartBundle
  /-- The quantity in stock, where it is asked for. -/
  inStock : Option Float

structure PriceBreakBundle where
  priceBreak : PriceBreak
  supplierPart : SupplierPartBundle

end SupplyCatalog
