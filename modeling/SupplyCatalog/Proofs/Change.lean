import SupplyCatalog.Proofs.Removal

/-!
# Changes

The changes that a database may undergo, each of them small: one row is written, or one row is
removed with all that belongs to it. A change is allowed when the row written fits in: what it
refers to is there and in its role, and no other row has its designation. A sound database stays
sound through every change that is allowed.
-/

namespace SupplyCatalog

inductive Change
  | addPart (row : Part)
  | addStockItem (item : StockItem)
  | writeCompany (write : Write Company)
  | writeManufacturerPart (write : Write ManufacturerPart)
  | writeParameter (write : Write Parameter)
  | writeSupplierPart (write : Write SupplierPart)
  | writePriceBreak (write : Write PriceBreak)
  | addAttachment (row : Attachment)
  | removeCompany (pk : Int)
  | removeManufacturerPart (pk : Int)
  | removeParameter (pk : Int)
  | removeSupplierPart (pk : Int)
  | removePriceBreak (pk : Int)
  | removeAttachment (kind : AttachmentKind) (pk : Int)

/-! ## Rows that fit in -/

theorem Database.HasInRole.contains {database : Database} {role : CompanyRole} {company : Int}
    (inRole : database.HasInRole role company) : database.companies.contains company = true := by
  rcases inRole with ⟨row, found, _⟩
  exact Table.contains_of_find found

theorem Database.Designates.contains {database : Database} {manufacturerPart part : Int}
    (designates : database.Designates manufacturerPart part) :
    database.manufacturerParts.contains manufacturerPart = true := by
  rcases designates with ⟨row, found, _⟩
  exact Table.contains_of_find found

def Company.FitsIn (row : Company) (database : Database) : Prop :=
  database.companies.IsFreeFor Company.name row

structure ManufacturerPart.FitsIn (row : ManufacturerPart) (database : Database) : Prop where
  part : database.Offers row.part
  manufacturer : database.HasInRole .manufacturer row.manufacturer
  free : database.manufacturerParts.IsFreeFor ManufacturerPart.designation row

theorem ManufacturerPart.FitsIn.stands {row : ManufacturerPart} {database : Database}
    (fits : row.FitsIn database) : row.StandsIn database :=
  ⟨fits.part, fits.manufacturer.contains⟩

structure Parameter.FitsIn (row : Parameter) (database : Database) : Prop where
  stands : row.StandsIn database
  free : database.parameters.IsFreeFor Parameter.designation row

structure SupplierPart.FitsIn (row : SupplierPart) (database : Database) : Prop where
  part : database.Offers row.part
  supplier : database.HasInRole .supplier row.supplier
  /-- What it is linked to is of the same part. -/
  link : ∀ pk ∈ row.manufacturerPart, database.Designates pk row.part
  free : database.supplierParts.IsFreeFor SupplierPart.designation row
  short : row.kept = row

theorem SupplierPart.FitsIn.stands {row : SupplierPart} {database : Database}
    (fits : row.FitsIn database) : row.StandsIn database := by
  refine ⟨fits.part, fits.supplier.contains, ?_⟩
  intro pk linked
  exact (fits.link pk linked).contains

structure PriceBreak.FitsIn (row : PriceBreak) (database : Database) : Prop where
  stands : row.StandsIn database
  free : database.priceBreaks.IsFreeFor PriceBreak.designation row
  short : row.kept = row

namespace Change

def apply (database : Database) : Change → Database
  | addPart row => { database with parts := database.parts.insert row }
  | addStockItem item => { database with stock := database.stock.insert item }
  | writeCompany write => { database with companies := write.apply database.companies }
  | writeManufacturerPart write =>
      { database with manufacturerParts := write.apply database.manufacturerParts }
  | writeParameter write => { database with parameters := write.apply database.parameters }
  | writeSupplierPart write =>
      { database with supplierParts := write.apply database.supplierParts }
  | writePriceBreak write => { database with priceBreaks := write.apply database.priceBreaks }
  | addAttachment row =>
      database.setAttachments row.owner.kind ((database.attachments row.owner.kind).insert row)
  | removeCompany pk => database.removeCompany pk
  | removeManufacturerPart pk => database.removeManufacturerParts (·.pk == pk)
  | removeParameter pk => { database with parameters := database.parameters.erase pk }
  | removeSupplierPart pk => database.removeSupplierParts (·.pk == pk)
  | removePriceBreak pk => { database with priceBreaks := database.priceBreaks.erase pk }
  | removeAttachment kind pk =>
      database.setAttachments kind ((database.attachments kind).erase pk)

def IsAllowed (database : Database) : Change → Prop
  | addStockItem item => item.StandsIn database
  | writeCompany write =>
      write.HasPlace database.companies ∧ (write.result database.companies).FitsIn database
  | writeManufacturerPart write =>
      write.HasPlace database.manufacturerParts ∧
        (write.result database.manufacturerParts).FitsIn database
  | writeParameter write =>
      write.HasPlace database.parameters ∧ (write.result database.parameters).FitsIn database
  | writeSupplierPart write =>
      write.HasPlace database.supplierParts ∧
        (write.result database.supplierParts).FitsIn database
  | writePriceBreak write =>
      write.HasPlace database.priceBreaks ∧ (write.result database.priceBreaks).FitsIn database
  | addAttachment row => database.HasOwner row.owner
  | _ => True

def applyAll (database : Database) (changes : List Change) : Database :=
  changes.foldl apply database

/-- Each change is allowed when its turn comes. -/
def AreAllowed (database : Database) : List Change → Prop
  | [] => True
  | change :: rest => change.IsAllowed database ∧ AreAllowed (change.apply database) rest

end Change

namespace Database

variable {before : Database} {change : Change}

/-! ## Keys -/

theorem HasUniqueKeys.apply (keys : before.HasUniqueKeys) (allowed : change.IsAllowed before) :
    (change.apply before).HasUniqueKeys := by
  cases change with
  | addPart row => exact { keys with }
  | addStockItem item => exact { keys with }
  | writeCompany write =>
      rcases allowed with ⟨place, free⟩
      exact { keys with companies := Table.distinct_by_apply keys.companies place free }
  | writeManufacturerPart write =>
      rcases allowed with ⟨place, fits⟩
      have distinct := Table.distinct_by_apply keys.manufacturerParts place fits.free
      exact { keys with manufacturerParts := distinct }
  | writeParameter write =>
      rcases allowed with ⟨place, fits⟩
      exact { keys with parameters := Table.distinct_by_apply keys.parameters place fits.free }
  | writeSupplierPart write =>
      rcases allowed with ⟨place, fits⟩
      have distinct := Table.distinct_by_apply keys.supplierParts place fits.free
      exact { keys with supplierParts := distinct }
  | writePriceBreak write =>
      rcases allowed with ⟨place, fits⟩
      exact { keys with priceBreaks := Table.distinct_by_apply keys.priceBreaks place fits.free }
  | addAttachment row =>
      cases kind : row.owner.kind <;>
        simp only [Change.apply, kind, setAttachments] <;> exact { keys with }
  | removeCompany pk => exact keys.without_company pk
  | removeManufacturerPart pk => exact keys.without_manufacturer_parts _
  | removeParameter pk =>
      exact { keys with parameters := Table.distinct_by_keep keys.parameters _ }
  | removeSupplierPart pk => exact keys.without_supplier_parts _
  | removePriceBreak pk =>
      exact { keys with priceBreaks := Table.distinct_by_keep keys.priceBreaks _ }
  | removeAttachment kind pk => cases kind <;> exact { keys with }

/-! ## References -/

theorem Retains.refl (database : Database) : database.Retains database :=
  ⟨fun _ _ => id, fun _ => id, fun _ => id, fun _ => id⟩

theorem retains_part (database : Database) (row : Part) :
    database.Retains { database with parts := database.parts.insert row } :=
  { Retains.refl database with parts := fun _ _ found => Table.find_insert_of_find row found }

theorem retains_company {database : Database} {write : Write Company}
    (place : write.HasPlace database.companies) :
    database.Retains { database with companies := write.apply database.companies } :=
  { Retains.refl database with companies := fun _ => Write.contains_mono place }

theorem retains_manufacturer_part {database : Database} {write : Write ManufacturerPart}
    (place : write.HasPlace database.manufacturerParts) :
    database.Retains
      { database with manufacturerParts := write.apply database.manufacturerParts } :=
  { Retains.refl database with manufacturerParts := fun _ => Write.contains_mono place }

theorem retains_supplier_part {database : Database} {write : Write SupplierPart}
    (place : write.HasPlace database.supplierParts) :
    database.Retains { database with supplierParts := write.apply database.supplierParts } :=
  { Retains.refl database with supplierParts := fun _ => Write.contains_mono place }

theorem retains_attachments (database : Database) (kind : AttachmentKind)
    (table : Table Attachment) : database.Retains (database.setAttachments kind table) := by
  cases kind <;> exact { Retains.refl database with }

theorem HasReferences.set_attachments {database : Database} {kind : AttachmentKind}
    {table : Table Attachment} (references : database.HasReferences)
    (owned : ∀ row ∈ table.rows, row.owner.kind = kind ∧ database.HasOwner row.owner) :
    (database.setAttachments kind table).HasReferences := by
  have retains := database.retains_attachments kind table
  have moved := references.mono retains
  have new : ∀ row ∈ table.rows,
      row.owner.kind = kind ∧ (database.setAttachments kind table).HasOwner row.owner := by
    intro row member
    obtain ⟨sameKind, has⟩ := owned row member
    exact ⟨sameKind, has.mono retains⟩
  cases kind with
  | company =>
      refine { moved with attachments := ?_ }
      intro kind row member
      cases kind with
      | company => exact new row member
      | manufacturerPart => exact moved.attachments .manufacturerPart row member
  | manufacturerPart =>
      refine { moved with attachments := ?_ }
      intro kind row member
      cases kind with
      | company => exact moved.attachments .company row member
      | manufacturerPart => exact new row member

theorem HasReferences.apply (references : before.HasReferences)
    (allowed : change.IsAllowed before) : (change.apply before).HasReferences := by
  cases change with
  | addPart row => exact { references.mono (retains_part before row) with }
  | addStockItem item =>
      have stock : ∀ other ∈ (before.stock.insert item).rows, other.StandsIn before := by
        intro other member
        rcases (Table.mem_insert _ _ _).1 member with old | rfl
        · exact references.stock other old
        · exact allowed
      exact { references with stock := stock }
  | writeCompany write => exact { references.mono (retains_company allowed.1) with }
  | writeManufacturerPart write =>
      rcases allowed with ⟨place, fits⟩
      have retains := retains_manufacturer_part place
      have moved := references.mono retains
      have all := Write.forall_apply place moved.manufacturerParts (fits.stands.mono retains)
      exact { moved with manufacturerParts := all }
  | writeParameter write =>
      rcases allowed with ⟨place, fits⟩
      exact { references with
        parameters := Write.forall_apply place references.parameters fits.stands }
  | writeSupplierPart write =>
      rcases allowed with ⟨place, fits⟩
      have retains := retains_supplier_part place
      have moved := references.mono retains
      exact { moved with
        supplierParts := Write.forall_apply place moved.supplierParts (fits.stands.mono retains) }
  | writePriceBreak write =>
      rcases allowed with ⟨place, fits⟩
      exact { references with
        priceBreaks := Write.forall_apply place references.priceBreaks fits.stands }
  | addAttachment row =>
      apply references.set_attachments
      intro other member
      rcases (Table.mem_insert _ _ _).1 member with old | rfl
      · exact references.attachments row.owner.kind other old
      · exact ⟨rfl, allowed⟩
  | removeCompany pk => exact references.without_company pk
  | removeManufacturerPart pk => exact references.without_manufacturer_parts _
  | removeParameter pk =>
      have parameters : ∀ row ∈ (before.parameters.erase pk).rows, row.StandsIn before := by
        intro row member
        exact references.parameters row ((Table.mem_erase _ _ _).1 member).1
      exact { references with parameters := parameters }
  | removeSupplierPart pk => exact references.without_supplier_parts _
  | removePriceBreak pk =>
      have priceBreaks : ∀ row ∈ (before.priceBreaks.erase pk).rows, row.StandsIn before := by
        intro row member
        exact references.priceBreaks row ((Table.mem_erase _ _ _).1 member).1
      exact { references with priceBreaks := priceBreaks }
  | removeAttachment kind pk =>
      apply references.set_attachments
      intro row member
      exact references.attachments kind row ((Table.mem_erase _ _ _).1 member).1

/-! ## Decimals -/

theorem HasShortDecimals.apply (decimals : before.HasShortDecimals)
    (allowed : change.IsAllowed before) : (change.apply before).HasShortDecimals := by
  cases change with
  | addPart row => exact { decimals with }
  | addStockItem item => exact { decimals with }
  | writeCompany write => exact { decimals with }
  | writeManufacturerPart write => exact { decimals with }
  | writeParameter write => exact { decimals with }
  | writeSupplierPart write =>
      rcases allowed with ⟨place, fits⟩
      exact { decimals with
        supplierParts := Write.forall_apply place decimals.supplierParts fits.short }
  | writePriceBreak write =>
      rcases allowed with ⟨place, fits⟩
      exact { decimals with
        priceBreaks := Write.forall_apply place decimals.priceBreaks fits.short }
  | addAttachment row =>
      cases kind : row.owner.kind <;>
        simp only [Change.apply, kind, setAttachments] <;> exact { decimals with }
  | removeCompany pk =>
      have left := (decimals.without_manufacturer_parts
        (·.manufacturer == pk)).without_supplier_parts (·.supplier == pk)
      exact { left with }
  | removeManufacturerPart pk => exact decimals.without_manufacturer_parts _
  | removeParameter pk => exact { decimals with }
  | removeSupplierPart pk => exact decimals.without_supplier_parts _
  | removePriceBreak pk =>
      have priceBreaks : ∀ row ∈ (before.priceBreaks.erase pk).rows, row.kept = row := by
        intro row member
        exact decimals.priceBreaks row ((Table.mem_erase _ _ _).1 member).1
      exact { decimals with priceBreaks := priceBreaks }
  | removeAttachment kind pk => cases kind <;> exact { decimals with }

/-! ## Soundness -/

theorem IsSound.apply (sound : before.IsSound) (allowed : change.IsAllowed before) :
    (change.apply before).IsSound where
  keys := sound.keys.apply allowed
  references := sound.references.apply allowed
  decimals := sound.decimals.apply allowed

theorem IsSound.apply_all {changes : List Change} (sound : before.IsSound)
    (allowed : Change.AreAllowed before changes) : (Change.applyAll before changes).IsSound := by
  induction changes generalizing before with
  | nil => exact sound
  | cons change rest induction => exact induction (sound.apply allowed.1) allowed.2

end Database

end SupplyCatalog
