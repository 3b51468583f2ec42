import SupplyCatalog.Proofs.Run

/-!
# What goes with a row

A removal is given by the keys of the companies, manufacturer parts and supplier parts that go. All
that belongs to these rows goes as well, references to them are emptied, and nothing else changes.
To delete a row is to carry out one such removal, though the database does it table by table: what
one step empties or removes, a later step meets again.
-/

namespace SupplyCatalog

/-- The keys of the rows that go. -/
structure Removal where
  companies : Int → Bool
  manufacturerParts : Int → Bool
  supplierParts : Int → Bool

namespace Removal

def ofCompanies (gone : Int → Bool) : Removal := ⟨gone, fun _ => false, fun _ => false⟩

def ofManufacturerParts (gone : Int → Bool) : Removal := ⟨fun _ => false, gone, fun _ => false⟩

def ofSupplierParts (gone : Int → Bool) : Removal := ⟨fun _ => false, fun _ => false, gone⟩

/-- What goes when one removal follows another. -/
def join (first second : Removal) : Removal where
  companies pk := first.companies pk || second.companies pk
  manufacturerParts pk := first.manufacturerParts pk || second.manufacturerParts pk
  supplierParts pk := first.supplierParts pk || second.supplierParts pk

def takes (removal : Removal) : AttachmentOwner → Bool
  | .company pk => removal.companies pk
  | .manufacturerPart pk => removal.manufacturerParts pk

end Removal

def Removal.left (gone : Int → Bool) (reference : Option Int) : Option Int :=
  reference.filter fun pk => !gone pk

def SupplierPart.without (row : SupplierPart) (removal : Removal) : SupplierPart :=
  { row with manufacturerPart := Removal.left removal.manufacturerParts row.manufacturerPart }

theorem SupplierPart.pk_without (row : SupplierPart) (removal : Removal) :
    (row.without removal).pk = row.pk := rfl

def StockItem.without (item : StockItem) (removal : Removal) : StockItem :=
  { item with
    supplierPart := Removal.left removal.supplierParts item.supplierPart
    customer := Removal.left removal.companies item.customer }

theorem StockItem.pk_without (item : StockItem) (removal : Removal) :
    (item.without removal).pk = item.pk := rfl

namespace Database

/-- The database after a removal, one table at a time and each as it was before. -/
def without (database : Database) (removal : Removal) : Database where
  parts := database.parts
  companies := database.companies.keep fun row => !removal.companies row.pk
  manufacturerParts := database.manufacturerParts.keep fun row =>
    !removal.manufacturerParts row.pk
  parameters := database.parameters.keep fun row =>
    !removal.manufacturerParts row.manufacturerPart
  supplierParts := (database.supplierParts.mapRows (·.without removal) (·.pk_without removal)).keep
    fun row => !removal.supplierParts row.pk
  priceBreaks := database.priceBreaks.keep fun row => !removal.supplierParts row.part
  stock := database.stock.mapRows (·.without removal) (·.pk_without removal)
  companyAttachments := database.companyAttachments.keep fun row => !removal.takes row.owner
  manufacturerPartAttachments := database.manufacturerPartAttachments.keep fun row =>
    !removal.takes row.owner

/-- A company goes with all that it makes and all that it supplies. -/
def goneWithCompany (database : Database) (pk : Int) : Removal where
  companies := (· == pk)
  manufacturerParts key := (database.manufacturerParts.find? key).any (·.manufacturer == pk)
  supplierParts key := (database.supplierParts.find? key).any (·.supplier == pk)

end Database

/-! ## One removal after the other -/

namespace Removal

theorem left_nothing {gone : Int → Bool} (nothing : ∀ pk, gone pk = false)
    (reference : Option Int) : left gone reference = reference := by
  cases reference with
  | none => rfl
  | some pk => simp [left, Option.filter, nothing]

theorem left_left (first second : Int → Bool) (reference : Option Int) :
    left second (left first reference) = left (fun pk => first pk || second pk) reference := by
  cases reference with
  | none => rfl
  | some pk => cases gone : first pk <;> simp [left, Option.filter, gone]

/-- A list of keys that go leaves the same of a reference. -/
theorem left_eq {gone : List Int} {goes : Int → Bool} (same : ∀ pk, gone.contains pk = goes pk)
    (reference : Option Int) :
    left goes reference = if reference.any gone.contains then none else reference := by
  cases reference with
  | none => rfl
  | some pk =>
      rw [Option.any_some, same, left]
      cases leads : goes pk <;> simp [Option.filter, leads]

theorem takes_eq (removal : Removal) (owner : AttachmentOwner) :
    removal.takes owner =
      match owner.kind with
      | .company => removal.companies owner.pk
      | .manufacturerPart => removal.manufacturerParts owner.pk := by
  cases owner <;> rfl

@[simp]
theorem companies_join (first second : Removal) (pk : Int) :
    (first.join second).companies pk = (first.companies pk || second.companies pk) := rfl

@[simp]
theorem manufacturer_parts_join (first second : Removal) (pk : Int) :
    (first.join second).manufacturerParts pk =
      (first.manufacturerParts pk || second.manufacturerParts pk) := rfl

@[simp]
theorem supplier_parts_join (first second : Removal) (pk : Int) :
    (first.join second).supplierParts pk =
      (first.supplierParts pk || second.supplierParts pk) := rfl

@[simp]
theorem takes_join (first second : Removal) (owner : AttachmentOwner) :
    (first.join second).takes owner = (first.takes owner || second.takes owner) := by
  cases owner <;> rfl

end Removal

namespace Database

theorem without_without (database : Database) (first second : Removal) :
    (database.without first).without second = database.without (first.join second) := by
  simp only [without, Database.mk.injEq, Table.keep_keep, Table.keep_map_rows,
    Table.map_rows_map_rows, SupplierPart.without, StockItem.without, Removal.left_left,
    Removal.companies_join, Removal.manufacturer_parts_join, Removal.supplier_parts_join,
    Removal.takes_join, Bool.not_or]
  exact ⟨trivial, trivial, trivial, trivial, rfl, trivial, rfl, trivial, trivial⟩

/-! ## The steps of a deletion -/

theorem contains_gone {α : Type} [Keyed α] (table : Table α) (isGone : α → Bool) (pk : Int) :
    ((table.rows.filter isGone).map Keyed.pk).contains pk = (table.find? pk).any isGone := by
  rw [Bool.eq_iff_iff, List.contains_iff_mem, Option.any_eq_true]
  simp only [List.mem_map, List.mem_filter, Table.find_eq_some_iff]
  constructor
  · rintro ⟨row, ⟨member, goes⟩, key⟩
    exact ⟨row, ⟨member, key⟩, goes⟩
  · rintro ⟨row, ⟨member, key⟩, goes⟩
    exact ⟨row, ⟨member, goes⟩, key⟩

/-- The key of a row leads to the row itself. -/
theorem any_of_mem {α : Type} [Keyed α] {table : Table α} {row : α} (member : row ∈ table.rows)
    (test : α → Bool) : (table.find? (Keyed.pk row)).any test = test row := by
  rw [(table.find_eq_some_iff _ row).2 ⟨member, rfl⟩]
  rfl

/-- Two databases are one when their tables are. -/
theorem eq_of_tables {left right : Database} (parts : left.parts = right.parts)
    (companies : left.companies = right.companies)
    (manufacturerParts : left.manufacturerParts = right.manufacturerParts)
    (parameters : left.parameters = right.parameters)
    (supplierParts : left.supplierParts = right.supplierParts)
    (priceBreaks : left.priceBreaks = right.priceBreaks) (stock : left.stock = right.stock)
    (attachments : ∀ kind, left.attachments kind = right.attachments kind) : left = right := by
  have ofCompanies := attachments .company
  have ofManufacturerParts := attachments .manufacturerPart
  cases left
  cases right
  simp only [Database.attachments] at *
  simp only [*]

theorem attachments_without (database : Database) (removal : Removal) (kind : AttachmentKind) :
    (database.without removal).attachments kind =
      (database.attachments kind).keep fun row => !removal.takes row.owner := by
  cases kind <;> rfl

end Database

theorem SupplierPart.without_eq_self (row : SupplierPart) {removal : Removal}
    (links : ∀ pk, removal.manufacturerParts pk = false) : row.without removal = row := by
  unfold without
  rw [Removal.left_nothing links]

theorem StockItem.without_eq_self (item : StockItem) {removal : Removal}
    (supplierParts : ∀ pk, removal.supplierParts pk = false)
    (customers : ∀ pk, removal.companies pk = false) : item.without removal = item := by
  unfold without
  rw [Removal.left_nothing supplierParts, Removal.left_nothing customers]

theorem SupplierPart.unlink_eq_without (row : SupplierPart) {gone : List Int} {goes : Int → Bool}
    (same : ∀ pk, gone.contains pk = goes pk) :
    row.unlink gone = row.without (.ofManufacturerParts goes) := by
  unfold unlink without Removal.ofManufacturerParts
  rw [Removal.left_eq same]
  split <;> rfl

theorem StockItem.unlink_eq_without (item : StockItem) {gone : List Int} {goes : Int → Bool}
    (same : ∀ pk, gone.contains pk = goes pk) :
    item.unlink gone = item.without (.ofSupplierParts goes) := by
  unfold unlink without Removal.ofSupplierParts
  rw [Removal.left_eq same, Removal.left_nothing fun _ => rfl]
  split <;> rfl

theorem StockItem.without_customer_eq_without (item : StockItem) (pk : Int) :
    item.withoutCustomer pk = item.without (.ofCompanies (· == pk)) := by
  have left : Removal.left (· == pk) item.customer =
      if item.customer = some pk then none else item.customer := by
    cases item.customer with
    | none => rfl
    | some holder => by_cases same : holder = pk <;> simp [Removal.left, Option.filter, same]
  unfold withoutCustomer without Removal.ofCompanies
  rw [left, Removal.left_nothing fun _ => rfl]
  split <;> rfl

theorem SupplierPart.supplier_unlink (row : SupplierPart) (gone : List Int) :
    (row.unlink gone).supplier = row.supplier := by
  unfold unlink
  split <;> rfl

namespace Database

variable {database : Database}

theorem supplier_parts_without {removal : Removal}
    (links : ∀ pk, removal.manufacturerParts pk = false) :
    (database.without removal).supplierParts =
      database.supplierParts.keep fun row => !removal.supplierParts row.pk := by
  have same := Table.map_rows_id database.supplierParts (·.without removal)
    (·.pk_without removal) fun row _ => row.without_eq_self links
  exact congrArg (·.keep fun row => !removal.supplierParts row.pk) same

theorem stock_without {removal : Removal} (supplierParts : ∀ pk, removal.supplierParts pk = false)
    (customers : ∀ pk, removal.companies pk = false) :
    (database.without removal).stock = database.stock :=
  Table.map_rows_id _ _ (·.pk_without removal) fun item _ =>
    item.without_eq_self supplierParts customers

theorem removed_manufacturer_parts (references : database.HasReferences)
    (isGone : ManufacturerPart → Bool) :
    database.removeManufacturerParts isGone =
      database.without (.ofManufacturerParts fun pk =>
        (database.manufacturerParts.find? pk).any isGone) := by
  have gone := contains_gone database.manufacturerParts isGone
  apply eq_of_tables
  case parts => rfl
  case companies => exact (Table.keep_all _ fun _ _ => rfl).symm
  case manufacturerParts =>
    apply Table.keep_congr
    intro row member
    exact congrArg _ (any_of_mem member isGone).symm
  case parameters =>
    apply Table.keep_congr
    intro row _
    exact congrArg _ (gone row.manufacturerPart)
  case supplierParts =>
    refine Eq.trans ?_ (Table.keep_all _ fun _ _ => rfl).symm
    exact Table.map_rows_congr _ _ (·.pk_unlink _) (·.pk_without _)
      fun row _ => row.unlink_eq_without gone
  case priceBreaks => exact (Table.keep_all _ fun _ _ => rfl).symm
  case stock => exact (stock_without (fun _ => rfl) fun _ => rfl).symm
  case attachments =>
    intro kind
    have ofKind := fun row member => (references.attachments kind row member).1
    rw [attachments_without]
    cases kind with
    | company =>
        refine (Table.keep_all _ ?_).symm
        intro row member
        rw [Removal.takes_eq, ofKind row member]
        rfl
    | manufacturerPart =>
        apply Table.keep_congr
        intro row member
        rw [Removal.takes_eq, ofKind row member]
        exact congrArg _ (gone row.owner.pk)

theorem removed_supplier_parts (isGone : SupplierPart → Bool) :
    database.removeSupplierParts isGone =
      database.without (.ofSupplierParts fun pk =>
        (database.supplierParts.find? pk).any isGone) := by
  have gone := contains_gone database.supplierParts isGone
  apply eq_of_tables
  case parts => rfl
  case companies => exact (Table.keep_all _ fun _ _ => rfl).symm
  case manufacturerParts => exact (Table.keep_all _ fun _ _ => rfl).symm
  case parameters => exact (Table.keep_all _ fun _ _ => rfl).symm
  case supplierParts =>
    rw [supplier_parts_without fun _ => rfl]
    apply Table.keep_congr
    intro row member
    exact congrArg _ (any_of_mem member isGone).symm
  case priceBreaks =>
    apply Table.keep_congr
    intro row _
    exact congrArg _ (gone row.part)
  case stock =>
    exact Table.map_rows_congr _ _ (·.pk_unlink _) (·.pk_without _)
      fun item _ => item.unlink_eq_without gone
  case attachments =>
    intro kind
    rw [attachments_without]
    refine Eq.trans ?_ (Table.keep_all _ ?_).symm
    · cases kind <;> rfl
    · intro row _
      cases row.owner <;> rfl

/-- The last step of the removal of a company. -/
theorem removed_company_alone (references : database.HasReferences) (pk : Int) :
    { database with
      companies := database.companies.erase pk
      companyAttachments := database.companyAttachments.keep fun row => row.owner.pk != pk
      stock := database.stock.mapRows (·.withoutCustomer pk) (·.pk_without_customer pk) } =
      database.without (.ofCompanies (· == pk)) := by
  apply eq_of_tables
  case parts => rfl
  case companies => rfl
  case manufacturerParts => exact (Table.keep_all _ fun _ _ => rfl).symm
  case parameters => exact (Table.keep_all _ fun _ _ => rfl).symm
  case supplierParts =>
    rw [supplier_parts_without fun _ => rfl]
    exact (Table.keep_all _ fun _ _ => rfl).symm
  case priceBreaks => exact (Table.keep_all _ fun _ _ => rfl).symm
  case stock =>
    exact Table.map_rows_congr _ _ (·.pk_without_customer _) (·.pk_without _)
      fun item _ => item.without_customer_eq_without pk
  case attachments =>
    intro kind
    have ofKind := fun row member => (references.attachments kind row member).1
    rw [attachments_without]
    cases kind with
    | company =>
        apply Table.keep_congr
        intro row member
        rw [Removal.takes_eq, ofKind row member]
        rfl
    | manufacturerPart =>
        refine (Table.keep_all _ ?_).symm
        intro row member
        rw [Removal.takes_eq, ofKind row member]
        rfl

/-- Who supplies a part is the same whatever its link. -/
theorem supplied_of_unlinked (isGone : ManufacturerPart → Bool) (pk key : Int) :
    ((database.removeManufacturerParts isGone).supplierParts.find? key).any (·.supplier == pk) =
      (database.supplierParts.find? key).any (·.supplier == pk) := by
  have found := Table.find_map_rows database.supplierParts _ (fun row => row.pk_unlink
    ((database.manufacturerParts.rows.filter isGone).map (·.pk))) key
  unfold removeManufacturerParts
  dsimp only
  rw [found, Option.any_map]
  congr 1
  funext row
  simp only [SupplierPart.supplier_unlink]

/-- What the three steps take together is what goes with the company. -/
theorem joined_steps (database : Database) (pk : Int) :
    (Removal.ofManufacturerParts fun key =>
        (database.manufacturerParts.find? key).any (·.manufacturer == pk)).join
      ((Removal.ofSupplierParts fun key =>
          (database.supplierParts.find? key).any (·.supplier == pk)).join
        (.ofCompanies (· == pk))) = database.goneWithCompany pk := by
  unfold Removal.join Removal.ofManufacturerParts Removal.ofSupplierParts Removal.ofCompanies
    goneWithCompany
  simp only [Bool.false_or, Bool.or_false]

theorem removed_company (references : database.HasReferences) (pk : Int) :
    database.removeCompany pk = database.without (database.goneWithCompany pk) := by
  let unmade := database.removeManufacturerParts (·.manufacturer == pk)
  let unsupplied := unmade.removeSupplierParts (·.supplier == pk)
  have left : unsupplied.HasReferences :=
    (references.without_manufacturer_parts _).without_supplier_parts _
  have supplied : (fun key => (unmade.supplierParts.find? key).any (·.supplier == pk)) =
      fun key => (database.supplierParts.find? key).any (·.supplier == pk) :=
    funext (supplied_of_unlinked _ pk)
  calc database.removeCompany pk
    _ = unsupplied.without (.ofCompanies (· == pk)) := removed_company_alone left pk
    _ = (unmade.without (.ofSupplierParts fun key =>
          (database.supplierParts.find? key).any (·.supplier == pk))).without
            (.ofCompanies (· == pk)) := by
      rw [← supplied, ← unmade.removed_supplier_parts (·.supplier == pk)]
    _ = database.without (database.goneWithCompany pk) := by
      rw [show unmade = _ from removed_manufacturer_parts references (·.manufacturer == pk),
        without_without, without_without, joined_steps]

/-- Where a key leads to a row, the rows that have it are the one that it leads to. -/
theorem any_pk_eq {α : Type} [Keyed α] {table : Table α} {pk : Int}
    (present : table.contains pk = true) :
    (fun key => (table.find? key).any (Keyed.pk · == pk)) = (· == pk) := by
  funext key
  cases found : table.find? key with
  | none =>
      have other : key ≠ pk := by
        rintro rfl
        simp [Table.contains, found] at present
      simp [other]
  | some row => simp [Table.pk_of_find found]

theorem removed_manufacturer_part (references : database.HasReferences) {pk : Int}
    (present : database.manufacturerParts.contains pk = true) :
    database.removeManufacturerParts (·.pk == pk) =
      database.without (.ofManufacturerParts (· == pk)) := by
  rw [← any_pk_eq present]
  exact removed_manufacturer_parts references _

theorem removed_supplier_part {pk : Int}
    (present : database.supplierParts.contains pk = true) :
    database.removeSupplierParts (·.pk == pk) =
      database.without (.ofSupplierParts (· == pk)) := by
  rw [← any_pk_eq present]
  exact removed_supplier_parts _

end Database

/-! ## Deletions -/

namespace Store

variable {store : Store} {pk : Int}

theorem database_of_deleted_company (sound : store.database.IsSound)
    (succeeds : (Operation.deleteCompany pk).Succeeds store) :
    ((Operation.deleteCompany pk).run store).2.database =
      store.database.without (store.database.goneWithCompany pk) := by
  obtain ⟨changes, makes, _, result⟩ := changes_of_success sound succeeds
  cases makes with
  | deleteCompany present =>
      rw [result]
      exact Database.removed_company sound.references pk

theorem database_of_deleted_manufacturer_part (sound : store.database.IsSound)
    (succeeds : (Operation.deleteManufacturerPart pk).Succeeds store) :
    ((Operation.deleteManufacturerPart pk).run store).2.database =
      store.database.without (.ofManufacturerParts (· == pk)) := by
  obtain ⟨changes, makes, _, result⟩ := changes_of_success sound succeeds
  cases makes with
  | deleteManufacturerPart present =>
      rw [result]
      exact Database.removed_manufacturer_part sound.references present

theorem database_of_deleted_supplier_part (sound : store.database.IsSound)
    (succeeds : (Operation.deleteSupplierPart pk).Succeeds store) :
    ((Operation.deleteSupplierPart pk).run store).2.database =
      store.database.without (.ofSupplierParts (· == pk)) := by
  obtain ⟨changes, makes, _, result⟩ := changes_of_success sound succeeds
  cases makes with
  | deleteSupplierPart present =>
      rw [result]
      exact Database.removed_supplier_part present

/-- After any run, a deletion that succeeds takes out the row with all that belongs to it, empties
the references to what went, and leaves everything else as it was. -/
theorem deletions_take_what_belongs (operations : List Operation) (pk : Int) :
    let store := empty.after operations
    ((Operation.deleteCompany pk).Succeeds store →
      ((Operation.deleteCompany pk).run store).2.database =
        store.database.without (store.database.goneWithCompany pk)) ∧
    ((Operation.deleteManufacturerPart pk).Succeeds store →
      ((Operation.deleteManufacturerPart pk).run store).2.database =
        store.database.without (.ofManufacturerParts (· == pk))) ∧
    ((Operation.deleteSupplierPart pk).Succeeds store →
      ((Operation.deleteSupplierPart pk).run store).2.database =
        store.database.without (.ofSupplierParts (· == pk))) := by
  have sound := reachable_is_sound operations
  exact ⟨database_of_deleted_company sound, database_of_deleted_manufacturer_part sound,
    database_of_deleted_supplier_part sound⟩

end Store

/-! ## A part that outlives its maker -/

namespace SmallCatalogue

def retailer : CompanyChanges := { noChanges with name := some "Resale", currency := some "USD" }

/-- The first part as the second company supplies it, linked to what the first one makes. -/
def resoldPart : SupplierPartInput where
  changes := ⟨some 1, some 2, some (some 1), some "S-2", none, none, none, none, none⟩
  available := none
  manufacturerLink := none

def resold : List Operation :=
  setUp ++ [.createCompany retailer none, .createSupplierPart resoldPart ⟨0, 0⟩]

def links (store : Store) : List (Int × Option Int) :=
  store.database.supplierParts.rows.map fun row => (row.pk, row.manufacturerPart)

end SmallCatalogue

open SmallCatalogue in
theorem resold_part_outlives_its_maker :
    let store := Store.empty.after resold
    ((Operation.deleteCompany 1).Succeeds store ∧
        links ((Operation.deleteCompany 1).run store).2 = [(2, none)]) ∧
      ((Operation.deleteManufacturerPart 1).Succeeds store ∧
        links ((Operation.deleteManufacturerPart 1).run store).2 = [(1, none), (2, none)]) ∧
      (Operation.deleteSupplierPart 1).Succeeds store ∧
        links ((Operation.deleteSupplierPart 1).run store).2 = [(2, some 1)] := by
  intro store
  obtain ⟨company, manufacturerPart, supplierPart⟩ := Store.deletions_take_what_belongs resold 1
  have first : (Operation.deleteCompany 1).Succeeds store := by rfl
  have second : (Operation.deleteManufacturerPart 1).Succeeds store := by rfl
  have third : (Operation.deleteSupplierPart 1).Succeeds store := by rfl
  refine ⟨⟨first, ?_⟩, ⟨second, ?_⟩, third, ?_⟩
  · rw [links, company first]
    decide +kernel
  · rw [links, manufacturerPart second]
    decide +kernel
  · rw [links, supplierPart third]
    decide +kernel

end SupplyCatalog
