import SupplyCatalog.Detail
import SupplyCatalog.View.Company

/-!
# Views of manufacturer parts and their parameters
-/

namespace SupplyCatalog.View

def manufacturerPart (bundle : ManufacturerPartBundle) (detail : ManufacturerPartDetail) : Json :=
  let row := bundle.manufacturerPart
  .object ([("pk", .int row.pk), ("part", .int row.part)] ++
    shown detail.partDetail "part_detail" (part bundle.part) ++
    shown detail.pretty "pretty_name" (.string (row.prettyName bundle.manufacturer)) ++
    [("manufacturer", .int row.manufacturer)] ++
    shown detail.manufacturerDetail "manufacturer_detail" (companyBrief bundle.manufacturer) ++
    [("description", .string row.description), ("MPN", .optionalString row.mpn),
      ("link", .string row.link)])

def parameter (bundle : ParameterBundle) (detail : ParameterDetail) : Json :=
  let row := bundle.parameter
  .object ([("pk", .int row.pk), ("manufacturer_part", .int row.manufacturerPart)] ++
    shown detail.manufacturerPartDetail "manufacturer_part_detail"
      (manufacturerPart bundle.linked ManufacturerPartDetail.standard) ++
    [("name", .string row.name), ("value", .string row.value), ("units", .string row.units)])

end SupplyCatalog.View
