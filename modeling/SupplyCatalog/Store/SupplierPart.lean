import SupplyCatalog.Payload.SupplierPart
import SupplyCatalog.Store.ManufacturerPart

/-!
# Writing supplier parts and price breaks

A supplier part designates a part that can be bought and a company that is a supplier; no two have
the same part, supplier and stock keeping unit, and the manufacturer part that one is linked to is
of the same part. A supplier part has no two price breaks of one quantity. Decimals are kept in
their shortest form.
-/

namespace SupplyCatalog

def SupplierPart.suppliesAs (a b : SupplierPart) : Bool :=
  a.part == b.part && a.supplier == b.supplier && a.sku == b.sku

/-- Same supplier part and same quantity, which are compared in the text that is kept of them. -/
def PriceBreak.pricesAs (a b : PriceBreak) : Bool :=
  a.part == b.part && a.quantity.normalize.toText == b.quantity.normalize.toText

def SupplierPart.kept (row : SupplierPart) : SupplierPart :=
  { row with packSize := row.packSize.normalize, available := row.available.normalize }

def PriceBreak.kept (row : PriceBreak) : PriceBreak :=
  { row with quantity := row.quantity.normalize, price := row.price.map (·.normalize) }

namespace Database

def linkViolations (database : Database) (row : SupplierPart) : List Violation :=
  match row.manufacturerPart with
  | none => []
  | some pk =>
      Violation.of do
        row.checkLink (← database.manufacturerParts.referred "manufacturer_part" pk)

/-- Uniqueness is looked at when part and supplier are right, whatever the link is. -/
def supplierPartViolations (database : Database) (row : SupplierPart) : List Violation :=
  let references :=
    Violation.of (database.purchaseablePart "part" row.part) ++
      Violation.of (database.companyWithRole "supplier" row.supplier .supplier)
  let isTaken := database.supplierParts.anyOther row.pk (·.suppliesAs row)
  references ++ database.linkViolations row ++
    (if references.isEmpty && isTaken then
      [.notUnique "The fields part, supplier, SKU must make a unique set."]
    else [])

/-- Puts a supplier part in the place of the one with its key, unless the schema refuses it. -/
def replaceSupplierPart (database : Database) (task : String) (row : SupplierPart) :
    Except ServiceError Database := do
  let table ← SupplierPart.clauses.replace database database.supplierParts task row.kept
  return { database with supplierParts := table }

/-- The supplier part with a new available quantity; the schema asks nothing of that. -/
def setAvailable (database : Database) (row : SupplierPart) : Database :=
  { database with supplierParts := database.supplierParts.replace row.kept }

def reportAvailable (database : Database) (row : SupplierPart) (quantity : Option Decimal)
    (now : Instant) : Except ServiceError (SupplierPart × Database) :=
  match quantity with
  | none => .ok (row, database)
  | some quantity =>
      match row.reportAvailable quantity now with
      | .error violation => .error (.ofViolation violation)
      | .ok row => .ok (row, database.setAvailable row)

def findManufacturerPart (database : Database) (part manufacturer : Int) (mpn : String) :
    Option ManufacturerPart :=
  database.manufacturerParts.rows.find? fun row =>
    row.part == part && row.manufacturer == manufacturer && row.mpn == some mpn

/-- The manufacturer part that a link means; it is made when there is none. -/
def linkTarget (database : Database) (row : SupplierPart) (link : ManufacturerLink) :
    Except ServiceError (ManufacturerPart × Database) :=
  match database.companyWithRole "manufacturer" link.manufacturer .manufacturer with
  | .error violation => .error (.ofViolation violation)
  | .ok manufacturer =>
      match database.findManufacturerPart row.part manufacturer.pk link.mpn with
      | some target => .ok (target, database)
      | none =>
          database.addManufacturerPart
            { pk := 0, part := row.part, manufacturer := manufacturer.pk, mpn := some link.mpn,
              description := "", link := "" }

def linkedElsewhere : ServiceError :=
  .ofField "manufacturer_part" "Supplier part is already linked to a different manufacturer part"

/-- Links a supplier part, if a link is asked for. One that names a manufacturer part already has
to name the same one. -/
def linkSupplierPart (database : Database) (row : SupplierPart)
    (link : Option ManufacturerLink) : Except ServiceError Database :=
  match link with
  | none => .ok database
  | some link => do
      let (target, database) ← database.linkTarget row link
      if row.manufacturerPart.any (· != target.pk) then .error linkedElsewhere
      else
        match row.checkLink target with
        | .error violation => .error (.ofViolation violation)
        | .ok () =>
            database.replaceSupplierPart "link manufacturer part"
              { row with manufacturerPart := some target.pk }

def draftNewSupplierPart (database : Database) (input : SupplierPartInput) (now : Instant) :
    Except ServiceError (Draft SupplierPartBundle) := do
  let row := { input.changes.create with updated := some now }
  ServiceError.check (database.supplierPartViolations row)
  let (saved, table) ←
    SupplierPart.clauses.insert database database.supplierParts "insert supplier part" row.kept
  let database := { database with supplierParts := table }
  let (saved, database) ← database.reportAvailable saved input.available now
  let database ← database.linkSupplierPart saved input.manufacturerLink
  return ⟨database, none, database.getSupplierPart saved.pk⟩

def draftChangedSupplierPart (database : Database) (pk : Int) (input : SupplierPartInput)
    (now : Instant) : Except ServiceError (Draft SupplierPartBundle) := do
  let row ← database.supplierParts.wanted "supplier part" pk
  let changed := { input.changes.applyTo row with updated := some now }
  ServiceError.check (database.supplierPartViolations changed)
  let database ← database.replaceSupplierPart "update supplier part" changed
  let (_, database) ← database.reportAvailable changed input.available now
  return ⟨database, none, database.getSupplierPart pk⟩

def draftWithoutSupplierPart (database : Database) (pk : Int) :
    Except ServiceError (Draft Unit) := do
  discard (database.supplierParts.wanted "supplier part" pk)
  return ⟨database.removeSupplierParts (·.pk == pk), none, .ok ()⟩

def priceBreakViolations (database : Database) (row : PriceBreak) : List Violation :=
  let isTaken := database.priceBreaks.anyOther row.pk (·.pricesAs row)
  match database.supplierParts.referred "part" row.part with
  | .error violation => [violation]
  | .ok _ =>
      if isTaken then [.notUnique "The fields part, quantity must make a unique set."] else []

/-- The answer shows the decimals as they were given. -/
def draftNewPriceBreak (database : Database) (changes : PriceBreakChanges)
    (currencies : CurrencyTable) (now : Instant) :
    Except ServiceError (Draft PriceBreakBundle) := do
  let row := { changes.create currencies with updated := some now }
  ServiceError.check (database.priceBreakViolations row)
  let saved := database.priceBreaks.keyed row
  let (_, table) ←
    PriceBreak.clauses.insert database database.priceBreaks "insert price break" row.kept
  let database := { database with priceBreaks := table }
  return ⟨database, none, database.priceBreakBundle saved⟩

def draftChangedPriceBreak (database : Database) (pk : Int) (changes : PriceBreakChanges)
    (now : Instant) : Except ServiceError (Draft PriceBreakBundle) := do
  let row ← database.priceBreaks.wanted "price break" pk
  let changed := { changes.applyTo row with updated := some now }
  ServiceError.check (database.priceBreakViolations changed)
  let table ←
    PriceBreak.clauses.replace database database.priceBreaks "update price break" changed.kept
  let database := { database with priceBreaks := table }
  return ⟨database, none, database.priceBreakBundle changed⟩

def draftWithoutPriceBreak (database : Database) (pk : Int) :
    Except ServiceError (Draft Unit) := do
  discard (database.priceBreaks.wanted "price break" pk)
  return ⟨{ database with priceBreaks := database.priceBreaks.erase pk }, none, .ok ()⟩

end Database

namespace Store

def createSupplierPart (store : Store) (input : SupplierPartInput) (now : Instant) :
    Except ServiceError SupplierPartBundle × Store :=
  store.write (store.database.draftNewSupplierPart input now)

def updateSupplierPart (store : Store) (pk : Int) (input : SupplierPartInput) (now : Instant) :
    Except ServiceError SupplierPartBundle × Store :=
  store.write (store.database.draftChangedSupplierPart pk input now)

def deleteSupplierPart (store : Store) (pk : Int) : Except ServiceError Unit × Store :=
  store.write (store.database.draftWithoutSupplierPart pk)

def createPriceBreak (store : Store) (changes : PriceBreakChanges) (currencies : CurrencyTable)
    (now : Instant) : Except ServiceError PriceBreakBundle × Store :=
  store.write (store.database.draftNewPriceBreak changes currencies now)

def updatePriceBreak (store : Store) (pk : Int) (changes : PriceBreakChanges) (now : Instant) :
    Except ServiceError PriceBreakBundle × Store :=
  store.write (store.database.draftChangedPriceBreak pk changes now)

def deletePriceBreak (store : Store) (pk : Int) : Except ServiceError Unit × Store :=
  store.write (store.database.draftWithoutPriceBreak pk)

end Store

end SupplyCatalog
