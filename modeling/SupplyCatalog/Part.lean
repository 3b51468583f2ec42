import SupplyCatalog.Violation
import SupplyCatalog.Media.Address

/-!
# Parts

An entry of the part catalogue. Supplier parts and manufacturer parts point at it; it is never
changed here.
-/

namespace SupplyCatalog

structure Part where
  pk : Int
  name : String
  ipn : String
  revision : String
  description : String
  image : Option String
  units : String
  active : Bool
  assembly : Bool
  purchaseable : Bool
  salable : Bool
  trackable : Bool
  isVirtual : Bool
deriving DecidableEq

namespace Part

/-- Internal number, name and revision, of which empty ones are left out. -/
def fullName (part : Part) : String :=
  String.intercalate " | " ([part.ipn, part.name, part.revision].filter fun text => text != "")

def thumbnailUrl (part : Part) : String :=
  (part.image.map Media.url).getD Media.blankThumbnailUrl

def requirePurchaseable (part : Part) : Checked Unit :=
  if part.purchaseable then .ok () else .error (.noSuchRow part.pk)

end Part

end SupplyCatalog
