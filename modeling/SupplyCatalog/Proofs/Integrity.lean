import SupplyCatalog.Proofs.Decimal
import SupplyCatalog.Proofs.Write
import SupplyCatalog.Store.Attachment
import SupplyCatalog.Store.Company
import SupplyCatalog.Store.SupplierPart

/-!
# Integrity of the database

What holds of the rows of a database at all times: rows of one kind differ in what designates them,
every row that another one refers to is there, only parts that can be bought are supplied or made,
and decimals are kept in their shortest form.
-/

namespace SupplyCatalog

/-! ## What designates a row -/

/-- Part, manufacturer and number; a missing number is a number like any other. -/
def ManufacturerPart.designation (row : ManufacturerPart) : Int × Int × Option String :=
  (row.part, row.manufacturer, row.mpn)

def Parameter.designation (row : Parameter) : Int × String := (row.manufacturerPart, row.name)

def SupplierPart.designation (row : SupplierPart) : Int × Int × String :=
  (row.part, row.supplier, row.sku)

/-- Supplier part and quantity, which is a number and not a text. -/
def PriceBreak.designation (row : PriceBreak) : Int × ℚ := (row.part, row.quantity.toRat)

theorem ManufacturerPart.designates_as_iff (a b : ManufacturerPart) :
    a.designatesAs b = true ↔ a.designation = b.designation := by
  simp [designatesAs, designation, and_assoc]

theorem Parameter.describes_as_iff (a b : Parameter) :
    a.describesAs b = true ↔ a.designation = b.designation := by
  simp [describesAs, designation]

theorem SupplierPart.supplies_as_iff (a b : SupplierPart) :
    a.suppliesAs b = true ↔ a.designation = b.designation := by
  simp [suppliesAs, designation, and_assoc]

theorem PriceBreak.prices_as_iff (a b : PriceBreak) :
    a.pricesAs b = true ↔ a.designation = b.designation := by
  simp [pricesAs, designation, Decimal.to_text_normalize_eq_iff]

theorem PriceBreak.designation_kept (row : PriceBreak) :
    row.kept.designation = row.designation := by
  simp [kept, designation, Decimal.to_rat_normalize]

structure Database.HasUniqueKeys (database : Database) : Prop where
  companies : database.companies.DistinctBy Company.name
  manufacturerParts : database.manufacturerParts.DistinctBy ManufacturerPart.designation
  parameters : database.parameters.DistinctBy Parameter.designation
  supplierParts : database.supplierParts.DistinctBy SupplierPart.designation
  priceBreaks : database.priceBreaks.DistinctBy PriceBreak.designation

/-! ## What a row refers to -/

namespace Database

variable (database : Database)

/-- The part is there and can be bought. -/
def Offers (part : Int) : Prop :=
  ∃ row, database.parts.find? part = some row ∧ row.purchaseable = true

def HasInRole (role : CompanyRole) (company : Int) : Prop :=
  ∃ row, database.companies.find? company = some row ∧ row.hasRole role = true

def Designates (manufacturerPart part : Int) : Prop :=
  ∃ row, database.manufacturerParts.find? manufacturerPart = some row ∧ row.part = part

def HasOwner : AttachmentOwner → Prop
  | .company pk => database.companies.contains pk = true
  | .manufacturerPart pk => database.manufacturerParts.contains pk = true

end Database

def ManufacturerPart.StandsIn (row : ManufacturerPart) (database : Database) : Prop :=
  database.Offers row.part ∧ database.companies.contains row.manufacturer = true

def Parameter.StandsIn (row : Parameter) (database : Database) : Prop :=
  database.manufacturerParts.contains row.manufacturerPart = true

def SupplierPart.StandsIn (row : SupplierPart) (database : Database) : Prop :=
  database.Offers row.part ∧ database.companies.contains row.supplier = true ∧
    ∀ pk ∈ row.manufacturerPart, database.manufacturerParts.contains pk = true

def PriceBreak.StandsIn (row : PriceBreak) (database : Database) : Prop :=
  database.supplierParts.contains row.part = true

def StockItem.StandsIn (item : StockItem) (database : Database) : Prop :=
  database.parts.contains item.part = true ∧
    (∀ pk ∈ item.supplierPart, database.supplierParts.contains pk = true) ∧
    ∀ pk ∈ item.customer, database.companies.contains pk = true

/-- All that the rows of one database refer to is in the other. -/
structure Database.StandsIn (holders database : Database) : Prop where
  manufacturerParts : ∀ row ∈ holders.manufacturerParts.rows, row.StandsIn database
  parameters : ∀ row ∈ holders.parameters.rows, row.StandsIn database
  supplierParts : ∀ row ∈ holders.supplierParts.rows, row.StandsIn database
  priceBreaks : ∀ row ∈ holders.priceBreaks.rows, row.StandsIn database
  stock : ∀ item ∈ holders.stock.rows, item.StandsIn database
  attachments : ∀ kind, ∀ row ∈ (holders.attachments kind).rows,
    row.owner.kind = kind ∧ database.HasOwner row.owner

abbrev Database.HasReferences (database : Database) : Prop := database.StandsIn database

/-- What rows refer to stays in place. -/
structure Database.Retains (before after : Database) : Prop where
  parts : ∀ pk row, before.parts.find? pk = some row → after.parts.find? pk = some row
  companies : ∀ pk, before.companies.contains pk = true → after.companies.contains pk = true
  manufacturerParts :
    ∀ pk, before.manufacturerParts.contains pk = true → after.manufacturerParts.contains pk = true
  supplierParts :
    ∀ pk, before.supplierParts.contains pk = true → after.supplierParts.contains pk = true

section Retained

variable {before after : Database} (retains : before.Retains after)

include retains

theorem Database.Offers.mono {part : Int} (offers : before.Offers part) : after.Offers part := by
  rcases offers with ⟨row, found, purchaseable⟩
  exact ⟨row, retains.parts part row found, purchaseable⟩

theorem ManufacturerPart.StandsIn.mono {row : ManufacturerPart} (stands : row.StandsIn before) :
    row.StandsIn after :=
  ⟨stands.1.mono retains, retains.companies _ stands.2⟩

theorem Parameter.StandsIn.mono {row : Parameter} (stands : row.StandsIn before) :
    row.StandsIn after :=
  retains.manufacturerParts _ stands

theorem SupplierPart.StandsIn.mono {row : SupplierPart} (stands : row.StandsIn before) :
    row.StandsIn after := by
  rcases stands with ⟨offers, supplier, link⟩
  refine ⟨offers.mono retains, retains.companies _ supplier, ?_⟩
  intro pk linked
  exact retains.manufacturerParts pk (link pk linked)

theorem PriceBreak.StandsIn.mono {row : PriceBreak} (stands : row.StandsIn before) :
    row.StandsIn after :=
  retains.supplierParts _ stands

theorem StockItem.StandsIn.mono {item : StockItem} (stands : item.StandsIn before) :
    item.StandsIn after := by
  rcases stands with ⟨part, supplierPart, customer⟩
  obtain ⟨row, found⟩ := (before.parts.contains_iff_find _).1 part
  have kept := Table.contains_of_find (retains.parts _ row found)
  refine ⟨kept, ?_, ?_⟩
  · intro pk through
    exact retains.supplierParts pk (supplierPart pk through)
  · intro pk holder
    exact retains.companies pk (customer pk holder)

theorem Database.HasOwner.mono {owner : AttachmentOwner} (has : before.HasOwner owner) :
    after.HasOwner owner := by
  cases owner with
  | company pk => exact retains.companies pk has
  | manufacturerPart pk => exact retains.manufacturerParts pk has

theorem Database.HasReferences.mono (references : before.HasReferences) :
    before.StandsIn after where
  manufacturerParts row member := (references.manufacturerParts row member).mono retains
  parameters row member := (references.parameters row member).mono retains
  supplierParts row member := (references.supplierParts row member).mono retains
  priceBreaks row member := (references.priceBreaks row member).mono retains
  stock item member := (references.stock item member).mono retains
  attachments kind row member := by
    obtain ⟨sameKind, owned⟩ := references.attachments kind row member
    exact ⟨sameKind, owned.mono retains⟩

end Retained

/-! ## Decimals -/

structure Database.HasShortDecimals (database : Database) : Prop where
  supplierParts : ∀ row ∈ database.supplierParts.rows, row.kept = row
  priceBreaks : ∀ row ∈ database.priceBreaks.rows, row.kept = row

theorem SupplierPart.kept_kept (row : SupplierPart) : row.kept.kept = row.kept := by
  simp [kept, Decimal.normalize_normalize]

theorem PriceBreak.kept_kept (row : PriceBreak) : row.kept.kept = row.kept := by
  cases price : row.price with
  | none => simp [kept, Decimal.normalize_normalize, price]
  | some decimal => simp [kept, Decimal.normalize_normalize, price]

structure Database.IsSound (database : Database) : Prop where
  keys : database.HasUniqueKeys
  references : database.HasReferences
  decimals : database.HasShortDecimals

theorem Database.empty_is_sound : Database.empty.IsSound where
  keys := by
    constructor <;> exact Table.distinct_by_empty _
  references := by
    constructor <;> simp [empty, attachments, Table.empty]
    rintro ⟨⟩ <;> simp
  decimals := by
    constructor <;> simp [empty, Table.empty]

end SupplyCatalog
