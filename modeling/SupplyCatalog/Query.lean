import SupplyCatalog.Detail
import SupplyCatalog.Number.Integer
import SupplyCatalog.Text.AsciiCase
import SupplyCatalog.Text.Blank
import SupplyCatalog.Url.Form

/-!
# Queries

The filters and switches that a request gives behind the question mark. A known name may be given
once; a filter for a key has to be a whole number, a switch is on for a few words and off for all
others. Unknown names are passed over.
-/

namespace SupplyCatalog

namespace Query

abbrev Pairs := List (String × String)

inductive Rejection
  | givenTwice (name : String)
  | notAnInteger (name : String)
deriving DecidableEq

def onWords : List String := ["1", "y", "yes", "t", "true", "on", "ok"]

/-- Whether a word switches something on; any other word switches it off. -/
def isOn (word : String) : Bool := onWords.contains (Text.lower (Text.trim word))

def text (pairs : Pairs) (name : String) : Except Rejection (Option String) :=
  match pairs.filter fun pair => pair.1 == name with
  | [] => .ok none
  | [pair] => .ok (some pair.2)
  | _ => .error (.givenTwice name)

def flag (pairs : Pairs) (name : String) : Except Rejection (Option Bool) := do
  return (← text pairs name).map isOn

def pk (pairs : Pairs) (name : String) : Except Rejection (Option Int) := do
  match ← text pairs name with
  | none => return none
  | some value =>
      match Number.readInt64? value.toList with
      | some pk => return some pk
      | none => .error (.notAnInteger name)

end Query

structure CompanyQuery where
  isCustomer : Option Bool
  isSupplier : Option Bool
  isManufacturer : Option Bool
  search : Option String
deriving DecidableEq

def CompanyQuery.read (pairs : Query.Pairs) : Except Query.Rejection CompanyQuery := do
  let isCustomer ← Query.flag pairs "is_customer"
  let isSupplier ← Query.flag pairs "is_supplier"
  let isManufacturer ← Query.flag pairs "is_manufacturer"
  let search ← Query.text pairs "search"
  return { isCustomer, isSupplier, isManufacturer, search }

/-- The pattern that names and descriptions are searched for, with a percent sign at each end; a
blank search text restricts nothing. -/
def CompanyQuery.searchPattern? (query : CompanyQuery) : Option String :=
  match query.search.map Text.trim with
  | none => none
  | some wanted => if wanted = "" then none else some ("%" ++ wanted ++ "%")

structure ManufacturerPartQuery where
  part : Option Int
  manufacturer : Option Int
  partDetail : Option Bool
  manufacturerDetail : Option Bool
  pretty : Option Bool
deriving DecidableEq

namespace ManufacturerPartQuery

def read (pairs : Query.Pairs) : Except Query.Rejection ManufacturerPartQuery := do
  let part ← Query.pk pairs "part"
  let manufacturer ← Query.pk pairs "manufacturer"
  let partDetail ← Query.flag pairs "part_detail"
  let manufacturerDetail ← Query.flag pairs "manufacturer_detail"
  let pretty ← Query.flag pairs "pretty"
  return { part, manufacturer, partDetail, manufacturerDetail, pretty }

def detail (query : ManufacturerPartQuery) : ManufacturerPartDetail :=
  let base := ManufacturerPartDetail.standard
  { partDetail := query.partDetail.getD base.partDetail
    manufacturerDetail := query.manufacturerDetail.getD base.manufacturerDetail
    pretty := query.pretty.getD base.pretty }

end ManufacturerPartQuery

structure ParameterQuery where
  manufacturerPart : Option Int
  manufacturerPartDetail : Option Bool
deriving DecidableEq

namespace ParameterQuery

def read (pairs : Query.Pairs) : Except Query.Rejection ParameterQuery := do
  let manufacturerPart ← Query.pk pairs "manufacturer_part"
  let manufacturerPartDetail ← Query.flag pairs "manufacturer_part_detail"
  return { manufacturerPart, manufacturerPartDetail }

def detail (query : ParameterQuery) : ParameterDetail :=
  ⟨query.manufacturerPartDetail.getD ParameterDetail.standard.manufacturerPartDetail⟩

end ParameterQuery

structure SupplierPartQuery where
  part : Option Int
  supplier : Option Int
  /-- The manufacturer of the linked manufacturer part. -/
  manufacturer : Option Int
  brief : Option Bool
  partDetail : Option Bool
  supplierDetail : Option Bool
  manufacturerDetail : Option Bool
  pretty : Option Bool
deriving DecidableEq

namespace SupplierPartQuery

def read (pairs : Query.Pairs) : Except Query.Rejection SupplierPartQuery := do
  let part ← Query.pk pairs "part"
  let supplier ← Query.pk pairs "supplier"
  let manufacturer ← Query.pk pairs "manufacturer"
  let brief ← Query.flag pairs "brief"
  let partDetail ← Query.flag pairs "part_detail"
  let supplierDetail ← Query.flag pairs "supplier_detail"
  let manufacturerDetail ← Query.flag pairs "manufacturer_detail"
  let pretty ← Query.flag pairs "pretty"
  return { part, supplier, manufacturer, brief, partDetail, supplierDetail, manufacturerDetail,
           pretty }

/-- A brief view starts with every switch off; a switch that is given wins. -/
def detail (query : SupplierPartQuery) : SupplierPartDetail :=
  let base :=
    if query.brief.getD false then SupplierPartDetail.brief else SupplierPartDetail.full
  { partDetail := query.partDetail.getD base.partDetail
    supplierDetail := query.supplierDetail.getD base.supplierDetail
    manufacturerDetail := query.manufacturerDetail.getD base.manufacturerDetail
    pretty := query.pretty.getD base.pretty }

end SupplierPartQuery

structure PriceBreakQuery where
  part : Option Int
  partDetail : Option Bool
  supplierDetail : Option Bool
deriving DecidableEq

namespace PriceBreakQuery

def read (pairs : Query.Pairs) : Except Query.Rejection PriceBreakQuery := do
  let part ← Query.pk pairs "part"
  let partDetail ← Query.flag pairs "part_detail"
  let supplierDetail ← Query.flag pairs "supplier_detail"
  return { part, partDetail, supplierDetail }

def detail (query : PriceBreakQuery) : PriceBreakDetail :=
  let base := PriceBreakDetail.standard
  { partDetail := query.partDetail.getD base.partDetail
    supplierDetail := query.supplierDetail.getD base.supplierDetail }

end PriceBreakQuery

structure AttachmentQuery where
  owner : Option Int
deriving DecidableEq

/-- The filter has the name of the field that holds the owner. -/
def AttachmentQuery.read (ownerField : String) (pairs : Query.Pairs) :
    Except Query.Rejection AttachmentQuery := do
  return ⟨← Query.pk pairs ownerField⟩

end SupplyCatalog
