import SupplyCatalog.Payload.Company
import SupplyCatalog.Store.Reading

/-!
# Writing companies

No two companies have one name. The image that comes with a company is kept under a path of the
company and the format; the file that an update leaves behind is removed once the update has taken
effect, in a step of its own.
-/

namespace SupplyCatalog

def CompanyImage.path (pk : Int) (format : ImageFormat) : String :=
  Company.imageDirectory ++ "/" ++ CompanyImage.fileName pk format

namespace Database

def isNameTaken (database : Database) (company : Company) : Bool :=
  database.companies.anyOther company.pk fun other => other.name == company.name

def checkName (database : Database) (company : Company) : Except ServiceError Unit :=
  if database.isNameTaken company then
    .error (.ofField "name" "Company with this name already exists.")
  else .ok ()

def setImage (database : Database) (company : Company) (path : Option String) : Database :=
  { database with companies := database.companies.replace { company with image := path } }

/-- The draft for a company that is in the database already, with the image to be kept. -/
def draftImage (database : Database) (company : Company) (image : CompanyImage) :
    Draft CompanyBundle :=
  let path := CompanyImage.path company.pk image.format
  let database := database.setImage company (some path)
  ⟨database, some (path, image.bytes), database.getCompany company.pk⟩

def draftNewCompany (database : Database) (changes : CompanyChanges)
    (image : Option CompanyImage) : Except ServiceError (Draft CompanyBundle) := do
  let company := changes.create
  database.checkName company
  let (saved, table) ← Company.clauses.insert database database.companies "insert company" company
  let database := { database with companies := table }
  return match image with
    | some image => database.draftImage saved image
    | none => ⟨database, none, database.getCompany saved.pk⟩

/-- A new image wins over the wish to have none. -/
def draftChangedCompany (database : Database) (company : Company) (changes : CompanyChanges)
    (image : Option CompanyImage) : Except ServiceError (Draft CompanyBundle) := do
  let changed := changes.applyTo company
  database.checkName changed
  let table ← Company.clauses.replace database database.companies "update company" changed
  let database := { database with companies := table }
  return match image with
    | some image => database.draftImage changed image
    | none =>
        let database := if changes.clearImage then database.setImage changed none else database
        ⟨database, none, database.getCompany changed.pk⟩

end Database

namespace Store

def createCompany (store : Store) (changes : CompanyChanges) (image : Option CompanyImage) :
    Except ServiceError CompanyBundle × Store :=
  store.write (store.database.draftNewCompany changes image)

/-- A company update that has taken effect in the database. -/
structure CompanyUpdate where
  saved : CompanyBundle
  /-- Path of the image before the update. -/
  previousImage : Option String
deriving DecidableEq

/-- The first step of an update: everything but the removal of the image left behind. -/
def beginCompanyUpdate (store : Store) (pk : Int) (changes : CompanyChanges)
    (image : Option CompanyImage) : Except ServiceError CompanyUpdate × Store :=
  match store.database.companies.wanted "company" pk with
  | .error failure => (.error failure, store)
  | .ok company =>
      let (answer, store) := store.write (store.database.draftChangedCompany company changes image)
      (answer.map fun saved => ⟨saved, company.image⟩, store)

/-- The second step: the image before the update goes, unless it is still the one of the company. -/
def settleCompanyUpdate (store : Store) (update : CompanyUpdate) : Store :=
  if update.saved.company.image = update.previousImage then store
  else store.removeFile update.previousImage

def updateCompany (store : Store) (pk : Int) (changes : CompanyChanges)
    (image : Option CompanyImage) : Except ServiceError CompanyBundle × Store :=
  match store.beginCompanyUpdate pk changes image with
  | (.ok update, store) => (.ok update.saved, store.settleCompanyUpdate update)
  | (.error failure, store) => (.error failure, store)

/-- Removes a company with all that belongs to it, and the file of its own image. -/
def deleteCompany (store : Store) (pk : Int) : Except ServiceError Unit × Store :=
  match store.database.companies.wanted "company" pk with
  | .error failure => (.error failure, store)
  | .ok company =>
      let store := { store with database := store.database.removeCompany pk }
      (.ok (), store.removeFile company.image)

end Store

end SupplyCatalog
