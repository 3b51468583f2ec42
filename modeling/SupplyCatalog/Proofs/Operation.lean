import SupplyCatalog.Proofs.Commit
import SupplyCatalog.Store.Catalogue

/-!
# Operations and runs

An operation is one call of the store with all that it is given, and a run is a list of operations.
What an operation changes when it succeeds is listed once, operation by operation; when it fails it
leaves the database as it was. So a sound database stays sound through every run.
-/

namespace SupplyCatalog

inductive Operation
  | addPart (row : Part)
  | addStockItem (item : StockItem)
  | createCompany (changes : CompanyChanges) (image : Option CompanyImage)
  | updateCompany (pk : Int) (changes : CompanyChanges) (image : Option CompanyImage)
  | deleteCompany (pk : Int)
  | createManufacturerPart (changes : ManufacturerPartChanges)
  | updateManufacturerPart (pk : Int) (changes : ManufacturerPartChanges)
  | deleteManufacturerPart (pk : Int)
  | createParameter (changes : ParameterChanges)
  | updateParameter (pk : Int) (changes : ParameterChanges)
  | deleteParameter (pk : Int)
  | createSupplierPart (input : SupplierPartInput) (now : Instant)
  | updateSupplierPart (pk : Int) (input : SupplierPartInput) (now : Instant)
  | deleteSupplierPart (pk : Int)
  | createPriceBreak (changes : PriceBreakChanges) (currencies : CurrencyTable) (now : Instant)
  | updatePriceBreak (pk : Int) (changes : PriceBreakChanges) (now : Instant)
  | deletePriceBreak (pk : Int)
  | createAttachment (kind : AttachmentKind) (input : AttachmentInput) (today : Date)
  | deleteAttachment (kind : AttachmentKind) (pk : Int)

namespace Operation

/-- The outcome of an operation without what its answer shows. -/
def unread {α : Type} (outcome : Except ServiceError α × Store) :
    Except ServiceError Unit × Store :=
  (outcome.1.map fun _ => (), outcome.2)

theorem answered_of_unread {α : Type} {outcome : Except ServiceError α × Store}
    (succeeds : (unread outcome).1 = .ok ()) : ∃ answer, outcome = (.ok answer, outcome.2) := by
  obtain ⟨result, after⟩ := outcome
  cases result with
  | ok answer => exact ⟨answer, rfl⟩
  | error failure => cases succeeds

def run (store : Store) : Operation → Except ServiceError Unit × Store
  | addPart row => (.ok (), (store.addPart row).2)
  | addStockItem item => unread (store.addStockItem item)
  | createCompany changes image => unread (store.createCompany changes image)
  | updateCompany pk changes image => unread (store.updateCompany pk changes image)
  | deleteCompany pk => unread (store.deleteCompany pk)
  | createManufacturerPart changes => unread (store.createManufacturerPart changes)
  | updateManufacturerPart pk changes => unread (store.updateManufacturerPart pk changes)
  | deleteManufacturerPart pk => unread (store.deleteManufacturerPart pk)
  | createParameter changes => unread (store.createParameter changes)
  | updateParameter pk changes => unread (store.updateParameter pk changes)
  | deleteParameter pk => unread (store.deleteParameter pk)
  | createSupplierPart input now => unread (store.createSupplierPart input now)
  | updateSupplierPart pk input now => unread (store.updateSupplierPart pk input now)
  | deleteSupplierPart pk => unread (store.deleteSupplierPart pk)
  | createPriceBreak changes currencies now =>
      unread (store.createPriceBreak changes currencies now)
  | updatePriceBreak pk changes now => unread (store.updatePriceBreak pk changes now)
  | deletePriceBreak pk => unread (store.deletePriceBreak pk)
  | createAttachment kind input today => unread (store.createAttachment kind input today)
  | deleteAttachment kind pk => unread (store.deleteAttachment kind pk)

def Succeeds (store : Store) (operation : Operation) : Prop :=
  (operation.run store).1 = .ok ()

/-- The file that an operation asks to be kept. -/
def file (store : Store) : Operation → Option (String × Bytes)
  | createCompany _ image => image.map (CompanyImage.file store.database.companies.nextPk)
  | updateCompany pk _ image => image.map (CompanyImage.file pk)
  | createAttachment kind input _ => input.stored (kind.owner input.owner) store.media.freePath
  | _ => none

/-- The path of the file that an operation removes once it has taken effect. -/
def abandoned (store : Store) : Operation → Option String
  | updateCompany pk changes image =>
      (store.database.companies.find? pk).bind fun company =>
        if (company.changed changes image).image = company.image then none else company.image
  | deleteCompany pk => (store.database.companies.find? pk).bind (·.image)
  | deleteAttachment kind pk => ((store.database.attachments kind).find? pk).bind (·.path)
  | _ => none

/-- The changes that an operation makes when it succeeds. -/
inductive Makes (store : Store) : Operation → List Change → Prop
  | addPart (row : Part) : Makes store (.addPart row) [.addPart row]
  | addStockItem (item : StockItem) : Makes store (.addStockItem item) [.addStockItem item]
  | createCompany (changes : CompanyChanges) (image : Option CompanyImage) :
      Makes store (.createCompany changes image)
        [.writeCompany (.add (changes.created
          ((image.map (CompanyImage.file store.database.companies.nextPk)).map (·.1))))]
  | updateCompany {pk : Int} {company : Company}
      (found : store.database.companies.find? pk = some company) (changes : CompanyChanges)
      (image : Option CompanyImage) :
      Makes store (.updateCompany pk changes image)
        [.writeCompany (.set (company.changed changes image))]
  | deleteCompany {pk : Int} (present : store.database.companies.contains pk = true) :
      Makes store (.deleteCompany pk) [.removeCompany pk]
  | createManufacturerPart (changes : ManufacturerPartChanges) :
      Makes store (.createManufacturerPart changes)
        [.writeManufacturerPart (.add changes.create)]
  | updateManufacturerPart {pk : Int} {row : ManufacturerPart}
      (found : store.database.manufacturerParts.find? pk = some row)
      (changes : ManufacturerPartChanges) :
      Makes store (.updateManufacturerPart pk changes)
        [.writeManufacturerPart (.set (changes.applyTo row))]
  | deleteManufacturerPart {pk : Int}
      (present : store.database.manufacturerParts.contains pk = true) :
      Makes store (.deleteManufacturerPart pk) [.removeManufacturerPart pk]
  | createParameter (changes : ParameterChanges) :
      Makes store (.createParameter changes) [.writeParameter (.add changes.create)]
  | updateParameter {pk : Int} {row : Parameter}
      (found : store.database.parameters.find? pk = some row) (changes : ParameterChanges) :
      Makes store (.updateParameter pk changes) [.writeParameter (.set (changes.applyTo row))]
  | deleteParameter {pk : Int} (present : store.database.parameters.contains pk = true) :
      Makes store (.deleteParameter pk) [.removeParameter pk]
  | createSupplierPart {input : SupplierPartInput} {now : Instant} {changes : List Change}
      (creates : input.Creates store.database now changes) :
      Makes store (.createSupplierPart input now) changes
  | updateSupplierPart {pk : Int} {row : SupplierPart}
      (found : store.database.supplierParts.find? pk = some row) (input : SupplierPartInput)
      (now : Instant) :
      Makes store (.updateSupplierPart pk input now)
        [.writeSupplierPart (.set (row.changed input now))]
  | deleteSupplierPart {pk : Int} (present : store.database.supplierParts.contains pk = true) :
      Makes store (.deleteSupplierPart pk) [.removeSupplierPart pk]
  | createPriceBreak (changes : PriceBreakChanges) (currencies : CurrencyTable) (now : Instant) :
      Makes store (.createPriceBreak changes currencies now)
        [.writePriceBreak (.add (changes.created currencies now))]
  | updatePriceBreak {pk : Int} {row : PriceBreak}
      (found : store.database.priceBreaks.find? pk = some row) (changes : PriceBreakChanges)
      (now : Instant) :
      Makes store (.updatePriceBreak pk changes now)
        [.writePriceBreak (.set (row.changed changes now))]
  | deletePriceBreak {pk : Int} (present : store.database.priceBreaks.contains pk = true) :
      Makes store (.deletePriceBreak pk) [.removePriceBreak pk]
  | createAttachment (kind : AttachmentKind) (input : AttachmentInput) (today : Date) :
      Makes store (.createAttachment kind input today)
        [.addAttachment (input.created (kind.owner input.owner) store.media.freePath today)]
  | deleteAttachment {kind : AttachmentKind} {pk : Int}
      (present : (store.database.attachments kind).contains pk = true) :
      Makes store (.deleteAttachment kind pk) [.removeAttachment kind pk]

/-- How an operation may end. Stock is not put in by clients, and an item that refers to a row that
is not there is refused by the schema alone. -/
inductive Ends (store : Store) (operation : Operation) :
    Except ServiceError Unit × Store → Prop
  | done {changes : List Change} {media : MediaTree} (makes : operation.Makes store changes)
      (allowed : Change.AreAllowed store.database changes)
      (kept : store.media.keep (operation.file store) = (.ok (), media)) :
      Ends store operation (.ok (),
        Store.removeFile ⟨Change.applyAll store.database changes, media⟩
          (operation.abandoned store))
  | refused (failure : ServiceError) (expected : failure.status ≠ 500) :
      Ends store operation (.error failure, store)
  | dangling {item : StockItem} (seeds : operation = .addStockItem item)
      (missing : ¬ item.StandsIn store.database) (failure : ServiceError) :
      Ends store operation (.error failure, store)
  | unwritten {media : MediaTree} (error : MediaError)
      (kept : store.media.keep (operation.file store) = (.error error, media)) :
      Ends store operation (.error (.internal error.message), { store with media })

variable {store : Store} {operation : Operation}

/-- A write whose draft carries out what the operation makes. -/
theorem ends_of_draft {α : Type} {drafted : Except ServiceError (Draft α)}
    (leaves : operation.abandoned store = none)
    (yields : Yields drafted fun draft => ∃ changes, operation.Makes store changes ∧
      draft.CarriesOut store.database changes (operation.file store)) :
    operation.Ends store (unread (store.write drafted)) := by
  have writes : store.Writes
      (fun changes file _ => operation.Makes store changes ∧ file = operation.file store)
      (store.write drafted) := by
    apply Store.write_writes
    apply yields.mono
    intro draft holds
    rcases holds with ⟨changes, makes, carries⟩
    exact ⟨changes, operation.file store, fun _ _ => ⟨makes, rfl⟩, carries⟩
  generalize store.write drafted = outcome at writes ⊢
  cases writes with
  | done asked allowed kept =>
      rcases asked with ⟨makes, rfl⟩
      have ends := Ends.done makes allowed kept
      rw [leaves] at ends
      exact ends
  | refused failure expected => exact .refused failure expected
  | unwritten error asked kept =>
      rcases asked with ⟨_, rfl⟩
      exact .unwritten error kept

theorem changed_company_writes {company : Company}
    (found : store.database.companies.find? company.pk = some company) (changes : CompanyChanges)
    (image : Option CompanyImage) :
    store.Writes
      (fun changed file answer =>
        (updateCompany company.pk changes image).Makes store changed ∧
          file = (updateCompany company.pk changes image).file store ∧
          answer.company = company.changed changes image)
      (store.write (store.database.draftChangedCompany company changes image)) := by
  apply Store.write_writes
  apply (Database.yields_changed_company found changes image).mono
  intro draft holds
  rcases holds with ⟨carries, reads⟩
  refine ⟨_, _, ?_, carries⟩
  intro answer answered
  have written := Write.find_result carries.allowed.1.1
  rw [reads, carries.result] at answered
  exact ⟨.updateCompany found changes image, rfl, Database.company_of_get written answered⟩

theorem update_company_ends (pk : Int) (changes : CompanyChanges) (image : Option CompanyImage) :
    (updateCompany pk changes image).Ends store ((updateCompany pk changes image).run store) := by
  cases found : store.database.companies.find? pk with
  | none =>
      simp only [run, Store.updateCompany, Store.beginCompanyUpdate, Table.wanted_of_absent _ found]
      exact .refused _ (status_of_not_found _)
  | some company =>
      obtain rfl : company.pk = pk := Table.pk_of_find found
      have leaves : (updateCompany company.pk changes image).abandoned store =
          if (company.changed changes image).image = company.image then none
          else company.image := by
        rw [abandoned, found]
        rfl
      have writes := changed_company_writes found changes image
      simp only [run, Store.updateCompany, Store.beginCompanyUpdate, Table.wanted_of_find _ found]
      generalize store.write (store.database.draftChangedCompany company changes image) = outcome
        at writes ⊢
      cases writes with
      | done asked allowed kept =>
          rcases asked with ⟨makes, rfl, saved⟩
          have ends := Ends.done makes allowed kept
          rw [leaves] at ends
          simp only [Except.map, Store.settleCompanyUpdate, saved]
          split at ends
          · rename_i same
            rw [if_pos same]
            exact ends
          · rename_i different
            rw [if_neg different]
            exact ends
      | refused failure expected => exact .refused failure expected
      | unwritten error asked kept =>
          rcases asked with ⟨_, rfl, _⟩
          exact .unwritten error kept

theorem delete_company_ends (pk : Int) :
    (deleteCompany pk).Ends store ((deleteCompany pk).run store) := by
  cases found : store.database.companies.find? pk with
  | none =>
      simp only [run, Store.deleteCompany, Table.wanted_of_absent _ found]
      exact .refused _ (status_of_not_found _)
  | some company =>
      have leaves : (deleteCompany pk).abandoned store = company.image := by
        rw [abandoned, found]
        rfl
      have ends := Ends.done (.deleteCompany (Table.contains_of_find found)) ⟨trivial, trivial⟩ rfl
      rw [leaves] at ends
      simp only [run, Store.deleteCompany, Table.wanted_of_find _ found]
      exact ends

theorem delete_attachment_ends (kind : AttachmentKind) (pk : Int) :
    (deleteAttachment kind pk).Ends store ((deleteAttachment kind pk).run store) := by
  cases found : (store.database.attachments kind).find? pk with
  | none =>
      simp only [run, Store.deleteAttachment, Table.wanted_of_absent _ found]
      exact .refused _ (status_of_not_found _)
  | some row =>
      have leaves : (deleteAttachment kind pk).abandoned store = row.path := by
        rw [abandoned, found]
        rfl
      have ends :=
        Ends.done (.deleteAttachment (Table.contains_of_find found)) ⟨trivial, trivial⟩ rfl
      rw [leaves] at ends
      simp only [run, Store.deleteAttachment, Table.wanted_of_find _ found]
      exact ends

/-- A stock item is put in only when what it refers to is there. -/
theorem add_stock_item_ends (item : StockItem) :
    (addStockItem item).Ends store ((addStockItem item).run store) := by
  have taken : _ ↔ StockItem.StandsIn _ store.database :=
    StockItem.taken_iff (store.database.stock.keyed item) store.database.stock
  cases refusal : StockItem.clauses.refusal? store.database store.database.stock
      (store.database.stock.keyed item) with
  | none =>
      simp only [run, Store.addStockItem, Clauses.insert_eq_ok _ refusal]
      exact .done (.addStockItem item) ⟨taken.1 refusal, trivial⟩ rfl
  | some reason =>
      have missing : ¬ item.StandsIn store.database := by
        intro stands
        rw [taken.2 stands] at refusal
        cases refusal
      simp only [run, Store.addStockItem, Clauses.insert, refusal]
      exact .dangling rfl missing _

/-- Every operation on a sound database ends in one of these ways. -/
theorem run_ends (sound : store.database.IsSound) (operation : Operation) :
    operation.Ends store (operation.run store) := by
  cases operation with
  | addPart row => exact .done (.addPart row) ⟨trivial, trivial⟩ rfl
  | addStockItem item => exact add_stock_item_ends item
  | createCompany changes image =>
      apply ends_of_draft rfl
      apply (Database.yields_new_company changes image).mono
      intro draft carries
      exact ⟨_, .createCompany changes image, carries⟩
  | updateCompany pk changes image => exact update_company_ends pk changes image
  | deleteCompany pk => exact delete_company_ends pk
  | createManufacturerPart changes =>
      apply ends_of_draft rfl
      apply (Database.yields_new_manufacturer_part changes).mono
      intro draft carries
      exact ⟨_, .createManufacturerPart changes, carries⟩
  | updateManufacturerPart pk changes =>
      apply ends_of_draft rfl
      apply (Database.yields_changed_manufacturer_part pk changes).mono
      intro draft holds
      rcases holds with ⟨row, found, carries⟩
      exact ⟨_, .updateManufacturerPart found changes, carries⟩
  | deleteManufacturerPart pk =>
      apply ends_of_draft rfl
      apply (Database.yields_without_manufacturer_part pk).mono
      intro draft holds
      rcases holds with ⟨present, carries⟩
      exact ⟨_, .deleteManufacturerPart present, carries⟩
  | createParameter changes =>
      apply ends_of_draft rfl
      apply (Database.yields_new_parameter sound changes).mono
      intro draft carries
      exact ⟨_, .createParameter changes, carries⟩
  | updateParameter pk changes =>
      apply ends_of_draft rfl
      apply (Database.yields_changed_parameter sound pk changes).mono
      intro draft holds
      rcases holds with ⟨row, found, carries⟩
      exact ⟨_, .updateParameter found changes, carries⟩
  | deleteParameter pk =>
      apply ends_of_draft rfl
      apply (Database.yields_without_parameter pk).mono
      intro draft holds
      rcases holds with ⟨present, carries⟩
      exact ⟨_, .deleteParameter present, carries⟩
  | createSupplierPart input now =>
      apply ends_of_draft rfl
      apply (Database.yields_new_supplier_part sound).mono
      intro draft holds
      rcases holds with ⟨changes, creates, carries⟩
      exact ⟨changes, .createSupplierPart creates, carries⟩
  | updateSupplierPart pk input now =>
      apply ends_of_draft rfl
      apply (Database.yields_changed_supplier_part sound pk input now).mono
      intro draft holds
      rcases holds with ⟨row, found, carries⟩
      exact ⟨_, .updateSupplierPart found input now, carries⟩
  | deleteSupplierPart pk =>
      apply ends_of_draft rfl
      apply (Database.yields_without_supplier_part pk).mono
      intro draft holds
      rcases holds with ⟨present, carries⟩
      exact ⟨_, .deleteSupplierPart present, carries⟩
  | createPriceBreak changes currencies now =>
      apply ends_of_draft rfl
      apply (Database.yields_new_price_break sound changes currencies now).mono
      intro draft carries
      exact ⟨_, .createPriceBreak changes currencies now, carries⟩
  | updatePriceBreak pk changes now =>
      apply ends_of_draft rfl
      apply (Database.yields_changed_price_break sound pk changes now).mono
      intro draft holds
      rcases holds with ⟨row, found, carries⟩
      exact ⟨_, .updatePriceBreak found changes now, carries⟩
  | deletePriceBreak pk =>
      apply ends_of_draft rfl
      apply (Database.yields_without_price_break pk).mono
      intro draft holds
      rcases holds with ⟨present, carries⟩
      exact ⟨_, .deletePriceBreak present, carries⟩
  | createAttachment kind input today =>
      apply ends_of_draft rfl
      apply (Database.yields_new_attachment _ input store.media.freePath today).mono
      intro draft carries
      exact ⟨_, .createAttachment kind input today, carries⟩
  | deleteAttachment kind pk => exact delete_attachment_ends kind pk

end Operation

end SupplyCatalog
