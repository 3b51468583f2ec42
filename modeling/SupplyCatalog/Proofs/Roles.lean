import SupplyCatalog.Proofs.Run

/-!
# Roles of companies

The supplier of a supplier part is a supplier and the manufacturer of a manufacturer part is a
manufacturer. That is checked wherever such a part is written, but not where a company is: an update
may take from a company a role in which parts refer to it. Nothing else does.
-/

namespace SupplyCatalog

/-- Companies have the roles in which parts refer to them. -/
structure Database.HasRoles (database : Database) : Prop where
  suppliers : ∀ row ∈ database.supplierParts.rows, database.HasInRole .supplier row.supplier
  manufacturers :
    ∀ row ∈ database.manufacturerParts.rows, database.HasInRole .manufacturer row.manufacturer

/-- The company lacks a role in which parts refer to it. -/
def Company.LacksUsedRole (company : Company) (database : Database) : Prop :=
  (company.isSupplier = false ∧ ∃ row ∈ database.supplierParts.rows, row.supplier = company.pk) ∨
    (company.isManufacturer = false ∧
      ∃ row ∈ database.manufacturerParts.rows, row.manufacturer = company.pk)

/-- The change leaves a company without a role in which parts refer to it. -/
def Change.DropsUsedRole (database : Database) : Change → Prop
  | writeCompany (.set company) => company.LacksUsedRole database
  | _ => False

/-- The operation succeeds in taking from a company a role in which parts refer to it. -/
def Operation.DropsUsedRole (store : Store) : Operation → Prop
  | updateCompany pk changes image =>
      (updateCompany pk changes image).Succeeds store ∧
        ∃ company, store.database.companies.find? pk = some company ∧
          (changes.applyTo company).LacksUsedRole store.database
  | _ => False

namespace Database

variable {before : Database}

theorem HasInRole.mono {after : Database} {role : CompanyRole} {company : Int}
    (inRole : before.HasInRole role company)
    (same : after.companies.find? company = before.companies.find? company) :
    after.HasInRole role company := by
  unfold HasInRole
  rw [same]
  exact inRole

/-! ## Removals -/

theorem HasRoles.without_manufacturer_parts (roles : before.HasRoles)
    (isGone : ManufacturerPart → Bool) : (before.removeManufacturerParts isGone).HasRoles where
  suppliers := by
    intro row member
    obtain ⟨old, oldMember, rfl⟩ := (mem_unlinked isGone row).1 member
    obtain ⟨link, unlinked, _⟩ := old.unlink_eq _
    rw [unlinked]
    exact roles.suppliers old oldMember
  manufacturers := by
    intro row member
    exact roles.manufacturers row ((Table.mem_left _ isGone row).1 member).1

theorem HasRoles.without_supplier_parts (roles : before.HasRoles)
    (isGone : SupplierPart → Bool) : (before.removeSupplierParts isGone).HasRoles where
  suppliers := by
    intro row member
    exact roles.suppliers row ((Table.mem_left _ isGone row).1 member).1
  manufacturers := roles.manufacturers

theorem HasRoles.without_company (roles : before.HasRoles) (pk : Int) :
    (before.removeCompany pk).HasRoles where
  suppliers := by
    intro row member
    obtain ⟨left, different⟩ := not_supplied_by_gone member
    have inRole := (roles.without_manufacturer_parts (·.manufacturer == pk)).suppliers row left
    exact HasInRole.mono inRole (Table.find_erase _ different)
  manufacturers := by
    intro row member
    obtain ⟨left, different⟩ := not_made_by_gone member
    exact (roles.manufacturers row left).mono (Table.find_erase _ different)

/-! ## Changes -/

theorem HasInRole.after_write {write : Write Company} {role : CompanyRole} {company : Int}
    (inRole : before.HasInRole role company) (place : write.HasPlace before.companies)
    (keeps : company = (write.result before.companies).pk →
      (write.result before.companies).hasRole role = true) :
    (Change.apply before (.writeCompany write)).HasInRole role company := by
  by_cases written : company = (write.result before.companies).pk
  · refine ⟨write.result before.companies, ?_, keeps written⟩
    rw [written]
    exact Write.find_result place
  · exact inRole.mono (Write.find_other place written)

theorem HasRoles.apply {change : Change} (roles : before.HasRoles)
    (allowed : change.IsAllowed before) (spares : ¬ change.DropsUsedRole before) :
    (change.apply before).HasRoles := by
  cases change with
  | addPart row => exact { roles with }
  | addStockItem item => exact { roles with }
  | writeCompany write =>
      rcases allowed with ⟨place, _⟩
      cases write with
      | add new =>
          -- nothing refers to a key that has not been given out
          have unused {role : CompanyRole} {company : Int}
              (inRole : before.HasInRole role company) :
              company ≠ before.companies.nextPk := by
            have less := Table.lt_next_pk_of_contains inRole.contains
            omega
          constructor
          · intro row member
            have inRole := roles.suppliers row member
            exact inRole.after_write place fun written => absurd written (unused inRole)
          · intro row member
            have inRole := roles.manufacturers row member
            exact inRole.after_write place fun written => absurd written (unused inRole)
      | set company =>
          constructor
          · intro row member
            apply (roles.suppliers row member).after_write place
            intro written
            cases supplies : company.isSupplier with
            | true => exact supplies
            | false => exact absurd (.inl ⟨supplies, row, member, written⟩) spares
          · intro row member
            apply (roles.manufacturers row member).after_write place
            intro written
            cases makes : company.isManufacturer with
            | true => exact makes
            | false => exact absurd (.inr ⟨makes, row, member, written⟩) spares
  | writeManufacturerPart write =>
      rcases allowed with ⟨place, fits⟩
      exact { roles with
        manufacturers := Write.forall_apply place roles.manufacturers fits.manufacturer }
  | writeParameter write => exact { roles with }
  | writeSupplierPart write =>
      rcases allowed with ⟨place, fits⟩
      exact { roles with suppliers := Write.forall_apply place roles.suppliers fits.supplier }
  | writePriceBreak write => exact { roles with }
  | addAttachment row =>
      cases kind : row.owner.kind <;>
        simp only [Change.apply, kind, setAttachments] <;> exact { roles with }
  | removeCompany pk => exact roles.without_company pk
  | removeManufacturerPart pk => exact roles.without_manufacturer_parts _
  | removeParameter pk => exact { roles with }
  | removeSupplierPart pk => exact roles.without_supplier_parts _
  | removePriceBreak pk => exact { roles with }
  | removeAttachment kind pk => cases kind <;> exact { roles with }

/-- The other way round: a part still refers to the company that has lost the role. -/
theorem not_has_roles_of_dropped {change : Change} (allowed : change.IsAllowed before)
    (drops : change.DropsUsedRole before) : ¬ (change.apply before).HasRoles := by
  intro roles
  cases change with
  | writeCompany write =>
      cases write with
      | add new => exact drops
      | set company =>
          have written : (Change.apply before (.writeCompany (.set company))).companies.find?
              company.pk = some company :=
            Write.find_result allowed.1
          rcases drops with ⟨lacks, row, member, supplied⟩ | ⟨lacks, row, member, made⟩
          · obtain ⟨found, there, has⟩ := roles.suppliers row member
            rw [supplied, written] at there
            cases there
            exact absurd has (by simp [Company.hasRole, lacks])
          · obtain ⟨found, there, has⟩ := roles.manufacturers row member
            rw [made, written] at there
            cases there
            exact absurd has (by simp [Company.hasRole, lacks])
  | _ => exact drops

theorem empty_has_roles : Database.empty.HasRoles where
  suppliers row member := absurd member (Table.mem_empty row).1
  manufacturers row member := absurd member (Table.mem_empty row).1

end Database

/-! ## Operations and runs -/

namespace Operation

/-- For an update of a company, to drop a role that is used is to ask for flags without it. -/
theorem drops_used_role_iff {store : Store} {company : Company} {pk : Int}
    {changes : CompanyChanges} {image : Option CompanyImage}
    (found : store.database.companies.find? pk = some company)
    (succeeds : (updateCompany pk changes image).Succeeds store) :
    (Change.writeCompany (.set (company.changed changes image))).DropsUsedRole store.database ↔
      (updateCompany pk changes image).DropsUsedRole store := by
  constructor
  · intro drops
    exact ⟨succeeds, company, found, drops⟩
  · intro holds
    rcases holds with ⟨_, other, foundAgain, lacks⟩
    rw [found] at foundAgain
    cases foundAgain
    exact lacks

/-- An operation on a database in which companies have the roles they are used in leaves it so
exactly when it does not take such a role away. -/
theorem has_roles_step (store : Store) (operation : Operation) (sound : store.database.IsSound)
    (roles : store.database.HasRoles) :
    (operation.run store).2.database.HasRoles ↔ ¬ operation.DropsUsedRole store := by
  by_cases succeeds : operation.Succeeds store
  · obtain ⟨changes, makes, allowed, result⟩ := Store.changes_of_success sound succeeds
    rw [result]
    cases makes with
    | updateCompany found changes image =>
        rw [← drops_used_role_iff found succeeds]
        constructor
        · intro after drops
          exact Database.not_has_roles_of_dropped allowed.1 drops after
        · exact roles.apply allowed.1
    | createSupplierPart creates =>
        refine iff_of_true ?_ id
        cases creates with
        | unlinked none => exact roles.apply allowed.1 id
        | found link target given found => exact roles.apply allowed.1 id
        | made link given none => exact (roles.apply allowed.1 id).apply allowed.2.1 id
    | _ => exact iff_of_true (roles.apply allowed.1 id) id
  · rw [Store.database_of_failure sound succeeds]
    refine iff_of_true roles ?_
    intro drops
    cases operation with
    | updateCompany pk changes image => exact succeeds drops.1
    | _ => exact drops

end Operation

/-- Companies have the roles they are used in all through a run exactly when no operation of the run
takes from a company a role in which parts refer to it. -/
theorem roles_throughout_iff (operations : List Operation) :
    (∀ before, before <+: operations → (Store.empty.after before).database.HasRoles) ↔
      ∀ before operation, before ++ [operation] <+: operations →
        ¬ operation.DropsUsedRole (Store.empty.after before) :=
  Store.holds_throughout_iff Database.empty_has_roles Operation.has_roles_step operations

def SmallCatalogue.demoted : Store :=
  Store.empty.after
    (setUp ++ [.updateCompany 1 { noChanges with isSupplier := some false } none])

/-- So there are runs after which a supplier part is supplied by a company that is no supplier. -/
theorem supplied_by_no_supplier :
    ¬ ∀ operations : List Operation, (Store.empty.after operations).database.HasRoles := by
  intro always
  have roles : SmallCatalogue.demoted.database.HasRoles := always _
  have supplied : 1 ∈ SmallCatalogue.demoted.database.supplierParts.rows.map (·.supplier) := by
    decide
  have lacking : (SmallCatalogue.demoted.database.companies.find? 1).map (·.isSupplier) =
      some false := by
    decide
  obtain ⟨row, member, supplier⟩ := List.mem_map.1 supplied
  obtain ⟨company, found, has⟩ := roles.suppliers row member
  rw [supplier] at found
  rw [found] at lacking
  have noSupplier : company.isSupplier = false := Option.some.inj lacking
  exact absurd has (by simp [Company.hasRole, noSupplier])

end SupplyCatalog
