import SupplyCatalog.Violation
import SupplyCatalog.Media.Address

/-!
# Companies

A business that the inventory deals with, in any of three roles.
-/

namespace SupplyCatalog

structure Company where
  pk : Int
  name : String
  description : String
  website : String
  phone : String
  address : String
  email : String
  currency : String
  contact : String
  link : String
  /-- Path of the image below the media root. -/
  image : Option String
  isCustomer : Bool
  isSupplier : Bool
  isManufacturer : Bool
  notes : String
deriving DecidableEq

inductive CompanyRole
  | customer
  | supplier
  | manufacturer
deriving DecidableEq

namespace Company

def url (company : Company) : String := s!"/company/{company.pk}/"

def hasRole (company : Company) : CompanyRole → Bool
  | .customer => company.isCustomer
  | .supplier => company.isSupplier
  | .manufacturer => company.isManufacturer

/-- A company without the role is outside the choice that a field offers, so it is reported like
one that does not exist. -/
def requireRole (company : Company) (role : CompanyRole) : Checked Unit :=
  if company.hasRole role then .ok () else .error (.noSuchRow company.pk)

def imageUrl (company : Company) : Option String := company.image.map Media.url

def thumbnailUrl (company : Company) : String :=
  company.imageUrl.getD Media.blankThumbnailUrl

def imageDirectory : String := "company_images"

end Company

end SupplyCatalog
