import SupplyCatalog.Attachment
import SupplyCatalog.StockItem
import SupplyCatalog.Store.Table
import SupplyCatalog.SupplierPart

/-!
# The database

One table for each kind of row; attachments of companies and those of manufacturer parts have keys
of their own and lie in two tables. When a row goes, the rows that belong to it go with it, and
references that may be empty are emptied.
-/

namespace SupplyCatalog

instance : Keyed Part := ⟨Part.pk, fun key row => { row with pk := key }, fun _ _ => rfl⟩

instance : Keyed Company := ⟨Company.pk, fun key row => { row with pk := key }, fun _ _ => rfl⟩

instance : Keyed ManufacturerPart :=
  ⟨ManufacturerPart.pk, fun key row => { row with pk := key }, fun _ _ => rfl⟩

instance : Keyed Parameter := ⟨Parameter.pk, fun key row => { row with pk := key }, fun _ _ => rfl⟩

instance : Keyed SupplierPart :=
  ⟨SupplierPart.pk, fun key row => { row with pk := key }, fun _ _ => rfl⟩

instance : Keyed PriceBreak :=
  ⟨PriceBreak.pk, fun key row => { row with pk := key }, fun _ _ => rfl⟩

instance : Keyed StockItem := ⟨StockItem.pk, fun key row => { row with pk := key }, fun _ _ => rfl⟩

instance : Keyed Attachment :=
  ⟨Attachment.pk, fun key row => { row with pk := key }, fun _ _ => rfl⟩

structure Database where
  parts : Table Part
  companies : Table Company
  manufacturerParts : Table ManufacturerPart
  parameters : Table Parameter
  supplierParts : Table SupplierPart
  priceBreaks : Table PriceBreak
  stock : Table StockItem
  companyAttachments : Table Attachment
  manufacturerPartAttachments : Table Attachment

def SupplierPart.unlink (row : SupplierPart) (gone : List Int) : SupplierPart :=
  if row.manufacturerPart.any gone.contains then { row with manufacturerPart := none } else row

def StockItem.unlink (item : StockItem) (gone : List Int) : StockItem :=
  if item.supplierPart.any gone.contains then { item with supplierPart := none } else item

def StockItem.withoutCustomer (item : StockItem) (gone : Int) : StockItem :=
  if item.customer = some gone then { item with customer := none } else item

theorem SupplierPart.pk_unlink (row : SupplierPart) (gone : List Int) :
    (row.unlink gone).pk = row.pk := by
  unfold SupplierPart.unlink
  split <;> rfl

theorem StockItem.pk_unlink (item : StockItem) (gone : List Int) :
    (item.unlink gone).pk = item.pk := by
  unfold StockItem.unlink
  split <;> rfl

theorem StockItem.pk_without_customer (item : StockItem) (gone : Int) :
    (item.withoutCustomer gone).pk = item.pk := by
  unfold StockItem.withoutCustomer
  split <;> rfl

namespace Database

def empty : Database where
  parts := .empty
  companies := .empty
  manufacturerParts := .empty
  parameters := .empty
  supplierParts := .empty
  priceBreaks := .empty
  stock := .empty
  companyAttachments := .empty
  manufacturerPartAttachments := .empty

def attachments (database : Database) : AttachmentKind → Table Attachment
  | .company => database.companyAttachments
  | .manufacturerPart => database.manufacturerPartAttachments

def setAttachments (database : Database) (kind : AttachmentKind) (table : Table Attachment) :
    Database :=
  match kind with
  | .company => { database with companyAttachments := table }
  | .manufacturerPart => { database with manufacturerPartAttachments := table }

/-! ## Removal -/

/-- Removes manufacturer parts with their parameters and attachments; supplier parts that were
linked to them stay, without the link. -/
def removeManufacturerParts (database : Database) (isGone : ManufacturerPart → Bool) :
    Database :=
  let gone := (database.manufacturerParts.rows.filter isGone).map (·.pk)
  { database with
    manufacturerParts := database.manufacturerParts.keep fun row => !isGone row
    parameters := database.parameters.keep fun row => !gone.contains row.manufacturerPart
    manufacturerPartAttachments :=
      database.manufacturerPartAttachments.keep fun row => !gone.contains row.owner.pk
    supplierParts := database.supplierParts.mapRows (·.unlink gone) (·.pk_unlink gone) }

/-- Removes supplier parts with their price breaks; stock that came through them stays, without the
supplier part. -/
def removeSupplierParts (database : Database) (isGone : SupplierPart → Bool) : Database :=
  let gone := (database.supplierParts.rows.filter isGone).map (·.pk)
  { database with
    supplierParts := database.supplierParts.keep fun row => !isGone row
    priceBreaks := database.priceBreaks.keep fun row => !gone.contains row.part
    stock := database.stock.mapRows (·.unlink gone) (·.pk_unlink gone) }

/-- Removes a company with its attachments, all that it supplies and all that it makes; stock that
was with it as a customer stays, without the customer. -/
def removeCompany (database : Database) (pk : Int) : Database :=
  let database := database.removeManufacturerParts fun row => row.manufacturer == pk
  let database := database.removeSupplierParts fun row => row.supplier == pk
  { database with
    companies := database.companies.erase pk
    companyAttachments := database.companyAttachments.keep fun row => row.owner.pk != pk
    stock := database.stock.mapRows (·.withoutCustomer pk) (·.pk_without_customer pk) }

end Database

end SupplyCatalog
