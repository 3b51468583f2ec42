import SupplyCatalog.Bundle
import SupplyCatalog.Number.CompensatedSum
import SupplyCatalog.Query
import SupplyCatalog.Store.Reference
import SupplyCatalog.Text.Like

/-!
# Reading the store

A row is read together with the rows that it refers to. Lists hold the rows that a query selects, in
the order of names for companies and parameters, of keys for manufacturer parts, supplier parts and
attachments, and of supplier part and quantity for price breaks.
-/

namespace SupplyCatalog

/-- Whether a value passes a filter; a filter that is not given lets everything pass. -/
def Query.passes {α : Type} [DecidableEq α] (filter : Option α) (value : α) : Bool :=
  filter.all fun wanted => value = wanted

def CompanyQuery.selects (query : CompanyQuery) (company : Company) : Bool :=
  Query.passes query.isCustomer company.isCustomer &&
    Query.passes query.isSupplier company.isSupplier &&
    Query.passes query.isManufacturer company.isManufacturer &&
    query.searchPattern?.all fun pattern =>
      Text.isLike pattern company.name || Text.isLike pattern company.description

def ManufacturerPartQuery.selects (query : ManufacturerPartQuery) (row : ManufacturerPart) :
    Bool :=
  Query.passes query.part row.part && Query.passes query.manufacturer row.manufacturer

def ParameterQuery.selects (query : ParameterQuery) (row : Parameter) : Bool :=
  Query.passes query.manufacturerPart row.manufacturerPart

def PriceBreakQuery.selects (query : PriceBreakQuery) (row : PriceBreak) : Bool :=
  Query.passes query.part row.part

namespace Database

/-! ## Companies -/

def countSupplied (database : Database) (company : Int) : Nat :=
  database.supplierParts.rows.countP fun row => row.supplier == company

def countManufactured (database : Database) (company : Int) : Nat :=
  database.manufacturerParts.rows.countP fun row => row.manufacturer == company

def companyBundle (database : Database) (company : Company) : CompanyBundle :=
  ⟨company, database.countSupplied company.pk, database.countManufactured company.pk⟩

def getCompany (database : Database) (pk : Int) : Except ServiceError CompanyBundle := do
  return database.companyBundle (← database.companies.wanted "company" pk)

/-- Companies in the order of their names. A text that is searched for is taken to be no longer than
`Text.isLike` takes it. -/
def listCompanies (database : Database) (query : CompanyQuery) : List CompanyBundle :=
  ((database.companies.rows.filter query.selects).mergeSort fun a b =>
    decide (a.name ≤ b.name)).map database.companyBundle

/-! ## Manufacturer parts and parameters -/

def manufacturerPartBundle (database : Database) (row : ManufacturerPart) :
    Except ServiceError ManufacturerPartBundle := do
  let part ← database.parts.related "part" row.part
  let manufacturer ← database.companies.related "company" row.manufacturer
  return ⟨row, part, manufacturer⟩

def getManufacturerPart (database : Database) (pk : Int) :
    Except ServiceError ManufacturerPartBundle := do
  database.manufacturerPartBundle (← database.manufacturerParts.wanted "manufacturer part" pk)

def listManufacturerParts (database : Database) (query : ManufacturerPartQuery) :
    Except ServiceError (List ManufacturerPartBundle) :=
  (database.manufacturerParts.rows.filter query.selects).mapM database.manufacturerPartBundle

def relatedManufacturerPart (database : Database) (pk : Int) :
    Except ServiceError ManufacturerPartBundle := do
  database.manufacturerPartBundle (← database.manufacturerParts.related "manufacturer part" pk)

def parameterBundle (database : Database) (row : Parameter) :
    Except ServiceError ParameterBundle := do
  return ⟨row, ← database.relatedManufacturerPart row.manufacturerPart⟩

def getParameter (database : Database) (pk : Int) : Except ServiceError ParameterBundle := do
  database.parameterBundle (← database.parameters.wanted "parameter" pk)

def listParameters (database : Database) (query : ParameterQuery) :
    Except ServiceError (List ParameterBundle) :=
  ((database.parameters.rows.filter query.selects).mergeSort fun a b =>
    decide (a.name ≤ b.name)).mapM database.parameterBundle

/-! ## Supplier parts and price breaks -/

/-- The stock that is counted for a supplier part: what came through it and is there. -/
def counted (database : Database) (supplierPart : Int) : List StockItem :=
  database.stock.rows.filter fun item =>
    item.supplierPart == some supplierPart && item.isInStock

def inStock (database : Database) (supplierPart : Int) : Float :=
  Number.sumReals ((database.counted supplierPart).map (·.quantity))

def linkedBundle (database : Database) :
    Option Int → Except ServiceError (Option ManufacturerPartBundle)
  | some pk => return some (← database.relatedManufacturerPart pk)
  | none => .ok none

def supplierPartBundle (database : Database) (row : SupplierPart) (inStock : Option Float) :
    Except ServiceError SupplierPartBundle := do
  let part ← database.parts.related "part" row.part
  let supplier ← database.companies.related "company" row.supplier
  let linked ← database.linkedBundle row.manufacturerPart
  return ⟨row, part, supplier, linked, inStock⟩

def stockedBundle (database : Database) (row : SupplierPart) :
    Except ServiceError SupplierPartBundle :=
  database.supplierPartBundle row (some (database.inStock row.pk))

def getSupplierPart (database : Database) (pk : Int) :
    Except ServiceError SupplierPartBundle := do
  database.stockedBundle (← database.supplierParts.wanted "supplier part" pk)

def isMadeBy (database : Database) (manufacturerPart : Option Int) (manufacturer : Int) : Bool :=
  manufacturerPart.any fun pk =>
    (database.manufacturerParts.find? pk).any fun row => row.manufacturer == manufacturer

def selectsSupplierPart (database : Database) (query : SupplierPartQuery) (row : SupplierPart) :
    Bool :=
  Query.passes query.part row.part && Query.passes query.supplier row.supplier &&
    query.manufacturer.all (database.isMadeBy row.manufacturerPart)

def listSupplierParts (database : Database) (query : SupplierPartQuery) :
    Except ServiceError (List SupplierPartBundle) :=
  (database.supplierParts.rows.filter (database.selectsSupplierPart query)).mapM
    database.stockedBundle

/-- The supplier part of a price break is read without its stock. -/
def priceBreakBundle (database : Database) (row : PriceBreak) :
    Except ServiceError PriceBreakBundle := do
  let supplierPart ← database.supplierParts.related "supplier part" row.part
  return ⟨row, ← database.supplierPartBundle supplierPart none⟩

def getPriceBreak (database : Database) (pk : Int) : Except ServiceError PriceBreakBundle := do
  database.priceBreakBundle (← database.priceBreaks.wanted "price break" pk)

def isBefore (a b : PriceBreak) : Bool :=
  decide (a.part < b.part) || (a.part == b.part && !decide (b.quantity < a.quantity))

def listPriceBreaks (database : Database) (query : PriceBreakQuery) :
    Except ServiceError (List PriceBreakBundle) :=
  ((database.priceBreaks.rows.filter query.selects).mergeSort isBefore).mapM
    database.priceBreakBundle

/-! ## Attachments -/

def getAttachment (database : Database) (kind : AttachmentKind) (pk : Int) :
    Except ServiceError Attachment :=
  (database.attachments kind).wanted "attachment" pk

def listAttachments (database : Database) (kind : AttachmentKind) (query : AttachmentQuery) :
    List Attachment :=
  (database.attachments kind).rows.filter fun row => Query.passes query.owner row.owner.pk

end Database

end SupplyCatalog
