import SupplyCatalog.Proofs.RowOrigin
import SupplyCatalog.Proofs.RowRule
import SupplyCatalog.Proofs.ServiceRun

/-!
# Rules of all rows

Every row that a service keeps satisfies all rules of its kind, whatever requests there were. Rows
are written only with what requests gave, and removals leave the fields of other rows alone but for
links, for which there is no rule.
-/

namespace SupplyCatalog

structure Database.KeepsRules (database : Database) (currencies : CurrencyTable) : Prop where
  companies : ∀ row ∈ database.companies.rows, row.KeepsRules currencies
  manufacturerParts : ∀ row ∈ database.manufacturerParts.rows, row.KeepsRules
  parameters : ∀ row ∈ database.parameters.rows, row.KeepsRules
  supplierParts : ∀ row ∈ database.supplierParts.rows, row.KeepsRules
  priceBreaks : ∀ row ∈ database.priceBreaks.rows, row.KeepsRules currencies
  attachments : ∀ kind, ∀ row ∈ (database.attachments kind).rows, row.KeepsRules

theorem Database.empty_keeps_rules (currencies : CurrencyTable) :
    empty.KeepsRules currencies := by
  constructor <;> simp [empty, attachments, Table.empty]
  rintro ⟨⟩ <;> simp

/-! ## Changes -/

/-- The row that is written keeps the rules of its kind. -/
def Change.KeepsRules (database : Database) (currencies : CurrencyTable) : Change → Prop
  | writeCompany write => (write.result database.companies).KeepsRules currencies
  | writeManufacturerPart write => (write.result database.manufacturerParts).KeepsRules
  | writeParameter write => (write.result database.parameters).KeepsRules
  | writeSupplierPart write => (write.result database.supplierParts).KeepsRules
  | writePriceBreak write => (write.result database.priceBreaks).KeepsRules currencies
  | addAttachment row => row.KeepsRules
  | _ => True

theorem Database.KeepsRules.apply {before : Database} {change : Change}
    {currencies : CurrencyTable} (rules : before.KeepsRules currencies)
    (allowed : change.IsAllowed before) (written : change.KeepsRules before currencies) :
    (change.apply before).KeepsRules currencies := by
  constructor
  case companies =>
    intro row member
    rcases Change.company_origin allowed member with old | ⟨write, rfl, rfl⟩
    · exact rules.companies row old
    · exact written
  case manufacturerParts =>
    intro row member
    rcases Change.manufacturer_part_origin allowed member with old | ⟨write, rfl, rfl⟩
    · exact rules.manufacturerParts row old
    · exact written
  case parameters =>
    intro row member
    rcases Change.parameter_origin allowed member with old | ⟨write, rfl, rfl⟩
    · exact rules.parameters row old
    · exact written
  case supplierParts =>
    intro row member
    rcases Change.supplier_part_origin allowed member with ⟨old, oldMember, link, rfl⟩ |
      ⟨write, rfl, rfl⟩
    · exact { rules.supplierParts old oldMember with }
    · exact written
  case priceBreaks =>
    intro row member
    rcases Change.price_break_origin allowed member with old | ⟨write, rfl, rfl⟩
    · exact rules.priceBreaks row old
    · exact written
  case attachments =>
    intro kind row member
    rcases Change.attachment_origin member with old | ⟨new, rfl, _, rfl⟩
    · exact rules.attachments kind row old
    · have given : new.KeepsRules := written
      exact { given with }

/-! ## Operations -/

namespace Operation

/-- What the operation is given keeps the rules, and a row that it creates is given whole. -/
def KeepsRules (currencies : CurrencyTable) : Operation → Prop
  | createCompany changes _ => changes.KeepRules currencies ∧ changes.IsComplete
  | updateCompany _ changes _ => changes.KeepRules currencies
  | createManufacturerPart changes => changes.KeepRules
  | updateManufacturerPart _ changes => changes.KeepRules
  | createParameter changes => changes.KeepRules ∧ changes.IsComplete
  | updateParameter _ changes => changes.KeepRules
  | createSupplierPart input _ => input.KeepsRules ∧ input.IsComplete
  | updateSupplierPart _ input _ => input.KeepsRules
  | createPriceBreak changes table _ => table = currencies ∧ changes.KeepRules currencies
  | updatePriceBreak _ changes _ => changes.KeepRules currencies
  | createAttachment _ input _ => input.KeepsRules
  | _ => True

variable {store : Store} {operation : Operation} {currencies : CurrencyTable}

theorem run_keeps_rules (sound : store.database.IsSound)
    (listed : currencies.defaultCode ∈ currencies.codes)
    (rules : store.database.KeepsRules currencies) (given : operation.KeepsRules currencies) :
    (operation.run store).2.database.KeepsRules currencies := by
  by_cases succeeds : operation.Succeeds store
  · obtain ⟨changes, makes, allowed, result⟩ := Store.changes_of_success sound succeeds
    rw [result]
    cases makes with
    | createCompany changes image =>
        exact rules.apply allowed.1 { given.1.create given.2 with }
    | updateCompany found changes image =>
        have before := rules.companies _ (Table.mem_of_find found)
        exact rules.apply allowed.1 { CompanyChanges.KeepRules.apply_to given before with }
    | createManufacturerPart changes =>
        exact rules.apply allowed.1 { ManufacturerPartChanges.KeepRules.create given with }
    | updateManufacturerPart found changes =>
        have before := rules.manufacturerParts _ (Table.mem_of_find found)
        exact rules.apply allowed.1 (ManufacturerPartChanges.KeepRules.apply_to given before)
    | createParameter changes =>
        exact rules.apply allowed.1 { given.1.create given.2 with }
    | updateParameter found changes =>
        have before := rules.parameters _ (Table.mem_of_find found)
        exact rules.apply allowed.1 (ParameterChanges.KeepRules.apply_to given before)
    | createSupplierPart creates =>
        rename_i input now
        have created := given.1.created given.2 now
        cases creates with
        | unlinked none => exact rules.apply allowed.1 { created with }
        | found link target asked found => exact rules.apply allowed.1 { created with }
        | made link asked none =>
            have made := ManufacturerLink.made_keeps_rules (given.1.mpn link asked)
              (input.given now).part
            exact (rules.apply allowed.1 { made with }).apply allowed.2.1 { created with }
    | updateSupplierPart found input now =>
        have before := rules.supplierParts _ (Table.mem_of_find found)
        exact rules.apply allowed.1 (SupplierPartInput.KeepsRules.changed given before now)
    | createPriceBreak changes table now =>
        obtain ⟨rfl, given⟩ := given
        exact rules.apply allowed.1 { given.created listed now with }
    | updatePriceBreak found changes now =>
        have before := rules.priceBreaks _ (Table.mem_of_find found)
        exact rules.apply allowed.1 (PriceBreakChanges.KeepRules.changed given before now)
    | createAttachment kind input today =>
        exact rules.apply allowed.1 (AttachmentInput.KeepsRules.created given _ _ today)
    | _ => exact rules.apply allowed.1 trivial
  · rw [Store.database_of_failure sound succeeds]
    exact rules

end Operation

/-! ## Requests -/

namespace Service

variable {service : Service} {around : Surroundings}

theorem company_input_keeps_rules {isPartial : Bool} {body : Json} {changes : CompanyChanges}
    {image : Option CompanyImage}
    (given : service.companyInput around.world isPartial body = .ok (changes, image)) :
    changes.KeepRules service.currencies ∧ (isPartial = false → changes.IsComplete) := by
  obtain ⟨read, parsed, fetched⟩ := ok_of_bind given
  obtain ⟨fetchedImage, _, same⟩ := ok_of_bind fetched
  cases same
  exact CompanyChanges.keep_rules_of_parsed parsed

/-- Whatever a request asks for keeps the rules. -/
theorem AsksFor.keeps_rules {request : Http.Request} {operation : Operation}
    (asks : service.AsksFor around request operation) :
    operation.KeepsRules service.currencies := by
  rcases asks with ⟨action, _, asks⟩
  cases asks with
  | createCompany read given =>
      obtain ⟨rules, complete⟩ := company_input_keeps_rules given
      exact ⟨rules, complete rfl⟩
  | updateCompany read given => exact (company_input_keeps_rules given).1
  | createManufacturerPart read given => exact ManufacturerPartChanges.keep_rules_of_parsed given
  | updateManufacturerPart read given => exact ManufacturerPartChanges.keep_rules_of_parsed given
  | createParameter read given =>
      obtain ⟨rules, complete⟩ := ParameterChanges.keep_rules_of_parsed given
      exact ⟨rules, complete rfl⟩
  | updateParameter read given => exact (ParameterChanges.keep_rules_of_parsed given).1
  | createSupplierPart read given => exact SupplierPartInput.keeps_rules_of_create given
  | updateSupplierPart read given => exact SupplierPartInput.keeps_rules_of_update given
  | createPriceBreak read given => exact ⟨rfl, PriceBreakChanges.keep_rules_of_parsed given⟩
  | updatePriceBreak read given => exact PriceBreakChanges.keep_rules_of_parsed given
  | createAttachment read given => exact AttachmentInput.keeps_rules_of_parsed given
  | _ => trivial

/-! ## Runs -/

/-- The service goes by the table, and so do the rows that it keeps. -/
structure KeepsRules (service : Service) (currencies : CurrencyTable) : Prop where
  table : service.currencies = currencies
  database : service.store.database.KeepsRules currencies

variable {currencies : CurrencyTable}

theorem step_keeps_rules (sound : service.IsSound)
    (listed : currencies.defaultCode ∈ currencies.codes) (rules : service.KeepsRules currencies)
    (event : Event) : (service.step event).KeepsRules currencies := by
  have ran {operation : Operation} (given : operation.KeepsRules currencies) :
      { service with store := (operation.run service.store).2 }.KeepsRules currencies :=
    ⟨rules.table, Operation.run_keeps_rules sound.database listed rules.database given⟩
  cases event with
  | seedPart row =>
      have given : (Operation.addPart row).KeepsRules currencies := trivial
      exact ran given
  | seedStockItem item =>
      have given : (Operation.addStockItem item).KeepsRules currencies := trivial
      exact ran given
  | request around request =>
      have handles := handle_handles sound.database.references around request
      change (service.handle around request).2.KeepsRules currencies
      generalize service.handle around request = outcome at handles ⊢
      cases handles with
      | answered response expected => exact rules
      | carriedOut asks response tells => exact ran (rules.table ▸ asks.keeps_rules)

theorem after_keeps_rules (sound : service.IsSound)
    (listed : currencies.defaultCode ∈ currencies.codes) (rules : service.KeepsRules currencies)
    (events : List Event) : (service.after events).KeepsRules currencies := by
  induction events generalizing service with
  | nil => exact rules
  | cons event rest induction =>
      exact induction (step_is_sound sound event) (step_keeps_rules sound listed rules event)

end Service

/-- The default of a table is one of its codes. -/
theorem CurrencyTable.default_is_listed {codes : List String} {chosen : String}
    {table : CurrencyTable} (made : ofCodes codes chosen = .ok table) :
    table.defaultCode ∈ table.codes := by
  obtain ⟨kept, _, rest⟩ := ok_of_bind made
  split at rest
  · cases rest
  · dsimp only at rest
    split at rest
    · rename_i listed
      cases rest
      exact List.contains_iff_mem.1 listed
    · cases rest

/-- Whatever table of currencies a service is given and whatever requests it handles, every row that
it keeps satisfies the rules of all its fields. -/
theorem Service.rules_kept_in_every_run {codes : List String} {chosen : String}
    {currencies : CurrencyTable} (made : CurrencyTable.ofCodes codes chosen = .ok currencies)
    (remoteImages : RemoteImageSettings) (events : List Event) :
    ((fresh currencies remoteImages).after events).store.database.KeepsRules currencies := by
  have sound := fresh_is_sound currencies remoteImages
  have listed := CurrencyTable.default_is_listed made
  have initially : (fresh currencies remoteImages).KeepsRules currencies :=
    ⟨rfl, Database.empty_keeps_rules currencies⟩
  exact (after_keeps_rules sound listed initially events).database

/-! ## A row that was sent with blanks -/

namespace SmallCatalogue

/-- A company whose name is sent as a number and whose notes have blanks around them. -/
def blankedCompany : Http.Request :=
  post "/company/" "\x7b\"name\": 3, \"currency\": \"EUR\", \"notes\": \"  late \"\x7d"

def blankedEvents : List Event := [.request around blankedCompany]

end SmallCatalogue

open SmallCatalogue in
theorem blanked_company_keeps_rules :
    CurrencyTable.ofCodes CurrencyTable.standard.codes "USD" = .ok .standard ∧
      ∃ row ∈ ((Service.fresh .standard .standard).after
          blankedEvents).store.database.companies.rows,
        row.name = "3" ∧ row.notes = "late" ∧ row.KeepsRules .standard := by
  have made : CurrencyTable.ofCodes CurrencyTable.standard.codes "USD" = .ok .standard := by rfl
  have rules := Service.rules_kept_in_every_run made .standard blankedEvents
  have kept : ∃ row ∈ ((Service.fresh .standard .standard).after
      blankedEvents).store.database.companies.rows, row.name = "3" ∧ row.notes = "late" := by
    decide +kernel
  obtain ⟨row, member, name, notes⟩ := kept
  exact ⟨made, row, member, name, notes, rules.companies row member⟩

end SupplyCatalog
