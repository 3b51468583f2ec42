/-!
# Detail options

Which of the parts of a view that can be switched are shown.
-/

namespace SupplyCatalog

structure ManufacturerPartDetail where
  partDetail : Bool
  manufacturerDetail : Bool
  pretty : Bool
deriving DecidableEq

def ManufacturerPartDetail.standard : ManufacturerPartDetail := ⟨true, true, false⟩

structure ParameterDetail where
  manufacturerPartDetail : Bool
deriving DecidableEq

def ParameterDetail.standard : ParameterDetail := ⟨false⟩

structure SupplierPartDetail where
  partDetail : Bool
  supplierDetail : Bool
  /-- Shows the manufacturer and the linked manufacturer part. -/
  manufacturerDetail : Bool
  pretty : Bool
deriving DecidableEq

namespace SupplierPartDetail

def full : SupplierPartDetail := ⟨true, true, true, false⟩

def brief : SupplierPartDetail := ⟨false, false, false, false⟩

end SupplierPartDetail

structure PriceBreakDetail where
  partDetail : Bool
  supplierDetail : Bool
deriving DecidableEq

def PriceBreakDetail.standard : PriceBreakDetail := ⟨false, false⟩

end SupplyCatalog
