import SupplyCatalog.Bundle
import SupplyCatalog.Json.Basic

/-!
# Views of companies and parts

The JSON that clients are shown for a company, in brief inside other views and in full by itself,
and for a part of the catalogue.
-/

namespace SupplyCatalog.View

/-- The fields that stand for a company inside other views; the image is always a thumbnail. -/
def companyBrief (company : Company) : Json :=
  .object [("pk", .int company.pk), ("url", .string company.url), ("name", .string company.name),
    ("description", .string company.description), ("image", .string company.thumbnailUrl)]

def companyFields (company : Company) : List (String × Json) :=
  [("pk", .int company.pk), ("url", .string company.url), ("name", .string company.name),
    ("description", .string company.description), ("website", .string company.website),
    ("phone", .string company.phone), ("address", .string company.address),
    ("email", .string company.email), ("currency", .string company.currency),
    ("contact", .string company.contact), ("link", .string company.link),
    ("image", .optionalString company.imageUrl), ("is_customer", .bool company.isCustomer),
    ("is_manufacturer", .bool company.isManufacturer),
    ("is_supplier", .bool company.isSupplier), ("notes", .string company.notes)]

def company (bundle : CompanyBundle) : Json :=
  .object (companyFields bundle.company ++
    [("parts_supplied", .int bundle.partsSupplied),
      ("parts_manufactured", .int bundle.partsManufactured)])

def part (part : Part) : Json :=
  .object [("pk", .int part.pk), ("IPN", .string part.ipn), ("name", .string part.name),
    ("revision", .string part.revision), ("full_name", .string part.fullName),
    ("description", .string part.description), ("thumbnail", .string part.thumbnailUrl),
    ("active", .bool part.active), ("assembly", .bool part.assembly),
    ("purchaseable", .bool part.purchaseable), ("salable", .bool part.salable),
    ("trackable", .bool part.trackable), ("virtual", .bool part.isVirtual),
    ("units", .string part.units)]

/-- A field that is shown only when it is switched on. -/
def shown (on : Bool) (key : String) (value : Json) : List (String × Json) :=
  if on then [(key, value)] else []

end SupplyCatalog.View
