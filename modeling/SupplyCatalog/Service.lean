import SupplyCatalog.Http.Route
import SupplyCatalog.RemoteImage
import SupplyCatalog.Store.Attachment
import SupplyCatalog.Store.Company
import SupplyCatalog.Store.SupplierPart
import SupplyCatalog.View.Attachment
import SupplyCatalog.View.SupplierPart

/-!
# The service

Answers requests from a store. The query is read before the body, the body before the store is
touched, and an image is fetched in between. Queries are read where they have a meaning: for lists,
and wherever a view with switches is shown.
-/

namespace SupplyCatalog

open Http

structure Service where
  store : Store
  currencies : CurrencyTable
  remoteImages : RemoteImageSettings

/-- What a request meets outside the service: the time, the day, and the servers of images. -/
structure Surroundings where
  now : Instant
  today : Date
  world : RemoteWorld

abbrev Reply := Except Rejection (Response × Store)

namespace Service

def version : String := "0.1.0"

def healthBody : Json := .object [("status", .string "ok"), ("version", .string version)]

def currencyChoices (table : CurrencyTable) : Json :=
  .array (table.choices.map fun choice =>
    .object [("code", .string choice.code), ("name", .string choice.name)])

def currenciesBody (table : CurrencyTable) : Json :=
  .object [("default", .string table.defaultCode), ("currencies", currencyChoices table)]

def shownAll {α : Type} (shown : α → Json) (values : List α) : Json := .array (values.map shown)

def reading {α : Type} (store : Store) (shown : α → Json) (result : Except ServiceError α) :
    Response × Store :=
  (.ofResult 200 shown result, store)

def writing {α : Type} (status : Nat) (shown : α → Json)
    (outcome : Except ServiceError α × Store) : Response × Store :=
  (.ofResult status shown outcome.1, outcome.2)

def deleting (outcome : Except ServiceError Unit × Store) : Response × Store :=
  (.ofDeletion outcome.1, outcome.2)

/-- Carries on with what was read of the request, or answers why it cannot be used. -/
def given {α : Type} (store : Store) (input : Except ServiceError α)
    (next : α → Response × Store) : Response × Store :=
  match input with
  | .ok value => next value
  | .error failure => (.failed failure, store)

/-! ## Companies -/

/-- The changes that a body asks for, with the image fetched for them. -/
def companyInput (service : Service) (world : RemoteWorld) (isPartial : Bool) (body : Json) :
    Except ServiceError (CompanyChanges × Option CompanyImage) := do
  let changes ← CompanyChanges.parse service.currencies isPartial body
  return (changes, ← RemoteImage.fetchGiven service.remoteImages world changes.remoteImage)

def listCompanies (service : Service) (request : Request) : Reply := do
  let query ← request.readQuery CompanyQuery.read
  let store := service.store
  return reading store (shownAll View.company) (.ok (store.database.listCompanies query))

def createCompany (service : Service) (world : RemoteWorld) (request : Request) : Reply := do
  let body ← request.json
  return given service.store (service.companyInput world false body) fun (changes, image) =>
    writing 201 View.company (service.store.createCompany changes image)

def getCompany (service : Service) (pk : Int) : Reply :=
  return reading service.store View.company (service.store.database.getCompany pk)

def updateCompany (service : Service) (world : RemoteWorld) (request : Request) (pk : Int)
    (isPartial : Bool) : Reply := do
  let body ← request.json
  return given service.store (service.companyInput world isPartial body) fun (changes, image) =>
    writing 200 View.company (service.store.updateCompany pk changes image)

/-! ## Manufacturer parts and parameters -/

def listManufacturerParts (service : Service) (request : Request) : Reply := do
  let query ← request.readQuery ManufacturerPartQuery.read
  let store := service.store
  return reading store (shownAll (View.manufacturerPart · query.detail))
    (store.database.listManufacturerParts query)

def createManufacturerPart (service : Service) (request : Request) : Reply := do
  let query ← request.readQuery ManufacturerPartQuery.read
  let body ← request.json
  return given service.store (ManufacturerPartChanges.parse false body) fun changes =>
    writing 201 (View.manufacturerPart · query.detail)
      (service.store.createManufacturerPart changes)

def getManufacturerPart (service : Service) (request : Request) (pk : Int) : Reply := do
  let query ← request.readQuery ManufacturerPartQuery.read
  return reading service.store (View.manufacturerPart · query.detail)
    (service.store.database.getManufacturerPart pk)

def updateManufacturerPart (service : Service) (request : Request) (pk : Int)
    (isPartial : Bool) : Reply := do
  let query ← request.readQuery ManufacturerPartQuery.read
  let body ← request.json
  return given service.store (ManufacturerPartChanges.parse isPartial body) fun changes =>
    writing 200 (View.manufacturerPart · query.detail)
      (service.store.updateManufacturerPart pk changes)

def listParameters (service : Service) (request : Request) : Reply := do
  let query ← request.readQuery ParameterQuery.read
  let store := service.store
  return reading store (shownAll (View.parameter · query.detail))
    (store.database.listParameters query)

def createParameter (service : Service) (request : Request) : Reply := do
  let query ← request.readQuery ParameterQuery.read
  let body ← request.json
  return given service.store (ParameterChanges.parse false body) fun changes =>
    writing 201 (View.parameter · query.detail) (service.store.createParameter changes)

def getParameter (service : Service) (request : Request) (pk : Int) : Reply := do
  let query ← request.readQuery ParameterQuery.read
  return reading service.store (View.parameter · query.detail)
    (service.store.database.getParameter pk)

def updateParameter (service : Service) (request : Request) (pk : Int) (isPartial : Bool) :
    Reply := do
  let query ← request.readQuery ParameterQuery.read
  let body ← request.json
  return given service.store (ParameterChanges.parse isPartial body) fun changes =>
    writing 200 (View.parameter · query.detail) (service.store.updateParameter pk changes)

/-! ## Supplier parts and price breaks -/

def listSupplierParts (service : Service) (request : Request) : Reply := do
  let query ← request.readQuery SupplierPartQuery.read
  let store := service.store
  return reading store (shownAll (View.supplierPart · query.detail))
    (store.database.listSupplierParts query)

def createSupplierPart (service : Service) (now : Instant) (request : Request) : Reply := do
  let query ← request.readQuery SupplierPartQuery.read
  let body ← request.json
  return given service.store (SupplierPartInput.parseCreate body) fun input =>
    writing 201 (View.supplierPart · query.detail) (service.store.createSupplierPart input now)

def getSupplierPart (service : Service) (request : Request) (pk : Int) : Reply := do
  let query ← request.readQuery SupplierPartQuery.read
  return reading service.store (View.supplierPart · query.detail)
    (service.store.database.getSupplierPart pk)

def updateSupplierPart (service : Service) (now : Instant) (request : Request) (pk : Int)
    (isPartial : Bool) : Reply := do
  let query ← request.readQuery SupplierPartQuery.read
  let body ← request.json
  return given service.store (SupplierPartInput.parseUpdate isPartial body) fun input =>
    writing 200 (View.supplierPart · query.detail)
      (service.store.updateSupplierPart pk input now)

def listPriceBreaks (service : Service) (request : Request) : Reply := do
  let query ← request.readQuery PriceBreakQuery.read
  let store := service.store
  return reading store (shownAll (View.priceBreak · query.detail))
    (store.database.listPriceBreaks query)

def createPriceBreak (service : Service) (now : Instant) (request : Request) : Reply := do
  let query ← request.readQuery PriceBreakQuery.read
  let body ← request.json
  return given service.store (PriceBreakChanges.parse service.currencies false body)
    fun changes =>
      writing 201 (View.priceBreak · query.detail)
        (service.store.createPriceBreak changes service.currencies now)

def getPriceBreak (service : Service) (request : Request) (pk : Int) : Reply := do
  let query ← request.readQuery PriceBreakQuery.read
  return reading service.store (View.priceBreak · query.detail)
    (service.store.database.getPriceBreak pk)

def updatePriceBreak (service : Service) (now : Instant) (request : Request) (pk : Int)
    (isPartial : Bool) : Reply := do
  let query ← request.readQuery PriceBreakQuery.read
  let body ← request.json
  return given service.store (PriceBreakChanges.parse service.currencies isPartial body)
    fun changes =>
      writing 200 (View.priceBreak · query.detail)
        (service.store.updatePriceBreak pk changes now)

/-! ## Attachments -/

def listAttachments (service : Service) (request : Request) (kind : AttachmentKind) : Reply := do
  let query ← request.readQuery (AttachmentQuery.read kind.ownerField)
  let store := service.store
  return reading store (shownAll View.attachment) (.ok (store.database.listAttachments kind query))

def createAttachment (service : Service) (today : Date) (request : Request)
    (kind : AttachmentKind) : Reply := do
  let body ← request.json
  return given service.store (AttachmentInput.parse kind.ownerField body) fun input =>
    writing 201 View.attachment (service.store.createAttachment kind input today)

def getAttachment (service : Service) (kind : AttachmentKind) (pk : Int) : Reply :=
  return reading service.store View.attachment (service.store.database.getAttachment kind pk)

/-! ## Requests -/

def list (service : Service) (request : Request) : Resource → Reply
  | .companies => service.listCompanies request
  | .manufacturerParts => service.listManufacturerParts request
  | .parameters => service.listParameters request
  | .supplierParts => service.listSupplierParts request
  | .priceBreaks => service.listPriceBreaks request
  | .attachments kind => service.listAttachments request kind

def create (service : Service) (around : Surroundings) (request : Request) : Resource → Reply
  | .companies => service.createCompany around.world request
  | .manufacturerParts => service.createManufacturerPart request
  | .parameters => service.createParameter request
  | .supplierParts => service.createSupplierPart around.now request
  | .priceBreaks => service.createPriceBreak around.now request
  | .attachments kind => service.createAttachment around.today request kind

def get (service : Service) (request : Request) (pk : Int) : Resource → Reply
  | .companies => service.getCompany pk
  | .manufacturerParts => service.getManufacturerPart request pk
  | .parameters => service.getParameter request pk
  | .supplierParts => service.getSupplierPart request pk
  | .priceBreaks => service.getPriceBreak request pk
  | .attachments kind => service.getAttachment kind pk

def update (service : Service) (around : Surroundings) (request : Request) (pk : Int)
    (isPartial : Bool) : Resource → Reply
  | .companies => service.updateCompany around.world request pk isPartial
  | .manufacturerParts => service.updateManufacturerPart request pk isPartial
  | .parameters => service.updateParameter request pk isPartial
  | .supplierParts => service.updateSupplierPart around.now request pk isPartial
  | .priceBreaks => service.updatePriceBreak around.now request pk isPartial
  | .attachments _ => .error .wrongMethod

def delete (service : Service) (pk : Int) : Resource → Reply
  | .companies => return deleting (service.store.deleteCompany pk)
  | .manufacturerParts => return deleting (service.store.deleteManufacturerPart pk)
  | .parameters => return deleting (service.store.deleteParameter pk)
  | .supplierParts => return deleting (service.store.deleteSupplierPart pk)
  | .priceBreaks => return deleting (service.store.deletePriceBreak pk)
  | .attachments kind => return deleting (service.store.deleteAttachment kind pk)

def perform (service : Service) (around : Surroundings) (request : Request) : Action → Reply
  | .health => return (⟨200, some healthBody⟩, service.store)
  | .currencies => return (⟨200, some (currenciesBody service.currencies)⟩, service.store)
  | .list resource => service.list request resource
  | .create resource => service.create around request resource
  | .get resource pk => service.get request pk resource
  | .update resource pk isPartial => service.update around request pk isPartial resource
  | .delete resource pk => service.delete pk resource

/-- The body of a response is left out where only its status is asked for. -/
def trimmed (request : Request) (response : Response) : Response :=
  if request.method = "HEAD" then { response with body := none } else response

/-- The response to a request, and the service after it. -/
def handle (service : Service) (around : Surroundings) (request : Request) :
    Response × Service :=
  match (do service.perform around request (← Action.ofRequest request) : Reply) with
  | .ok (response, store) => (trimmed request response, { service with store })
  | .error rejection => (.rejected rejection, service)

end Service

end SupplyCatalog
