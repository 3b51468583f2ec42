import SupplyCatalog.Company
import SupplyCatalog.Payload.Basic

/-!
# Company payloads

The fields of a company that a request gives. The image itself is never sent: a request may name an
address to fetch one from, or give null to drop the one that is kept.
-/

namespace SupplyCatalog

/-- Every field holds the new value, if the request gives one. -/
structure CompanyChanges where
  name : Option String
  description : Option String
  website : Option String
  phone : Option String
  address : Option String
  email : Option String
  currency : Option String
  contact : Option String
  link : Option String
  isCustomer : Option Bool
  isSupplier : Option Bool
  isManufacturer : Option Bool
  notes : Option String
  /-- Address to fetch the image from. -/
  remoteImage : Option String
  /-- The image that is kept is to be dropped. -/
  clearImage : Bool
deriving DecidableEq

namespace CompanyChanges

/-- The only value that the image field takes is null. -/
def readClearImage (payload : Payload) : Noted Bool :=
  match payload.raw "image" with
  | none => ⟨false, []⟩
  | some .null => ⟨true, []⟩
  | some _ => ⟨false, [⟨"image", .rule
      "The submitted data was not a file. Check the encoding type on the form."⟩]⟩

/-- Null and empty text mean that no image is to be fetched. -/
def readRemoteImage (payload : Payload) : Noted (Option String) := do
  let read ← payload.nullable "remote_image" false (Value.address Url.fetchSchemes 2000)
  return match read with
    | some (some address) => if address = "" then none else some address
    | _ => none

def read (table : CurrencyTable) (payload : Payload) : Noted CompanyChanges := do
  let name ← payload.requiredText "name" 100
  let description ← payload.text "description" 500
  let website ← payload.link "website" 200
  let phone ← payload.text "phone" 50
  let address ← payload.text "address" 200
  let email ← payload.email "email" 254
  let currency ← payload.currency "currency" true table
  let contact ← payload.text "contact" 100
  let link ← payload.link "link" 200
  let isCustomer ← payload.boolean "is_customer"
  let isSupplier ← payload.boolean "is_supplier"
  let isManufacturer ← payload.boolean "is_manufacturer"
  let notes ← payload.text "notes" 50000
  let remoteImage ← readRemoteImage payload
  let clearImage ← readClearImage payload
  return { name, description, website, phone, address, email, currency, contact, link,
           isCustomer, isSupplier, isManufacturer, notes, remoteImage, clearImage }

def parse (table : CurrencyTable) (isPartial : Bool) (body : Json) :
    Except ServiceError CompanyChanges := do
  (read table (← Payload.ofJson body isPartial)).finish

/-- Puts the given fields in place of those of a company; its key and image stay. -/
def applyTo (changes : CompanyChanges) (company : Company) : Company :=
  { company with
    name := changes.name.getD company.name
    description := changes.description.getD company.description
    website := changes.website.getD company.website
    phone := changes.phone.getD company.phone
    address := changes.address.getD company.address
    email := changes.email.getD company.email
    currency := changes.currency.getD company.currency
    contact := changes.contact.getD company.contact
    link := changes.link.getD company.link
    isCustomer := changes.isCustomer.getD company.isCustomer
    isSupplier := changes.isSupplier.getD company.isSupplier
    isManufacturer := changes.isManufacturer.getD company.isManufacturer
    notes := changes.notes.getD company.notes }

/-- A company that no field has been given for: a supplier only. -/
def blank : Company where
  pk := 0
  name := ""
  description := ""
  website := ""
  phone := ""
  address := ""
  email := ""
  currency := ""
  contact := ""
  link := ""
  image := none
  isCustomer := false
  isSupplier := true
  isManufacturer := false
  notes := ""

def create (changes : CompanyChanges) : Company := changes.applyTo blank

end CompanyChanges

end SupplyCatalog
