import SupplyCatalog.Proofs.Change
import SupplyCatalog.Proofs.Outcome

/-!
# Validation and the schema

A row passes its checks exactly when it fits into the database, and a row that fits in is one that
the schema takes. So whatever the schema would refuse has been reported as an error of a field
before.
-/

namespace SupplyCatalog

namespace Database

variable (database : Database)

/-! ## What fields refer to -/

theorem purchaseable_part_ok_iff (field : String) (pk : Int) :
    (∃ part, database.purchaseablePart field pk = .ok part) ↔ database.Offers pk := by
  unfold purchaseablePart Table.referred Offers
  cases found : database.parts.find? pk with
  | none => simp [bind, Except.bind]
  | some part =>
      cases purchaseable : part.purchaseable with
      | true => simp [bind, Except.bind, Part.requirePurchaseable, Violation.inField, purchaseable]
      | false => simp [bind, Except.bind, Part.requirePurchaseable, Violation.inField, purchaseable]

theorem company_with_role_ok_iff (field : String) (pk : Int) (role : CompanyRole)
    (company : Company) :
    database.companyWithRole field pk role = .ok company ↔
      database.companies.find? pk = some company ∧ company.hasRole role = true := by
  unfold companyWithRole Table.referred
  cases database.companies.find? pk with
  | none => simp [bind, Except.bind]
  | some row =>
      cases inRole : row.hasRole role with
      | true =>
          simp only [bind, Except.bind, Company.requireRole, Violation.inField, inRole, if_true]
          constructor
          · intro same
            cases same
            exact ⟨rfl, inRole⟩
          · intro holds
            rcases holds with ⟨same, _⟩
            cases same
            rfl
      | false =>
          simp only [bind, Except.bind, Company.requireRole, Violation.inField, inRole]
          constructor
          · intro same
            cases same
          · intro holds
            rcases holds with ⟨same, has⟩
            cases same
            rw [inRole] at has
            cases has

theorem company_with_role_exists_iff (field : String) (pk : Int) (role : CompanyRole) :
    (∃ company, database.companyWithRole field pk role = .ok company) ↔
      database.HasInRole role pk := by
  simp only [company_with_role_ok_iff]
  rfl

theorem link_violations_eq_nil_iff (row : SupplierPart) :
    database.linkViolations row = [] ↔
      ∀ pk ∈ row.manufacturerPart, database.Designates pk row.part := by
  unfold linkViolations
  cases row.manufacturerPart with
  | none => simp
  | some pk =>
      simp only [Option.mem_def, Option.some.injEq, forall_eq']
      rw [violation_of_eq_nil_iff]
      unfold Table.referred Designates
      cases found : database.manufacturerParts.find? pk with
      | none => simp [bind, Except.bind]
      | some linked =>
          by_cases same : linked.part = row.part
          · simp [bind, Except.bind, SupplierPart.checkLink, same]
          · simp [bind, Except.bind, SupplierPart.checkLink, same]

/-! ## Checks of whole rows -/

theorem yields_check_name (company : Company) :
    Yields (database.checkName company) fun _ => company.FitsIn database := by
  unfold checkName
  cases taken : database.isNameTaken company with
  | true => exact status_of_field _ _
  | false =>
      apply Yields.ok
      exact (Table.is_free_for_iff fun other => by simp).1 taken

theorem manufacturer_part_violations_eq_nil_iff (row : ManufacturerPart) :
    database.manufacturerPartViolations row = [] ↔ row.FitsIn database := by
  have free : database.manufacturerParts.anyOther row.pk (·.designatesAs row) = false ↔
      database.manufacturerParts.IsFreeFor ManufacturerPart.designation row :=
    Table.is_free_for_iff fun other => other.designates_as_iff row
  have references : Violation.of (database.purchaseablePart "part" row.part) ++
        Violation.of (database.companyWithRole "manufacturer" row.manufacturer .manufacturer) = [] ↔
      database.Offers row.part ∧ database.HasInRole .manufacturer row.manufacturer := by
    rw [List.append_eq_nil_iff, violation_of_eq_nil_iff, violation_of_eq_nil_iff,
      purchaseable_part_ok_iff, company_with_role_exists_iff]
  have fits : row.FitsIn database ↔
      (database.Offers row.part ∧ database.HasInRole .manufacturer row.manufacturer) ∧
        database.manufacturerParts.IsFreeFor ManufacturerPart.designation row :=
    ⟨fun fits => ⟨⟨fits.part, fits.manufacturer⟩, fits.free⟩,
      fun ⟨⟨part, manufacturer⟩, free⟩ => ⟨part, manufacturer, free⟩⟩
  rw [fits, ← references, ← free]
  unfold manufacturerPartViolations
  cases database.manufacturerParts.anyOther row.pk (·.designatesAs row) with
  | false => simp
  | true =>
      simp only [Bool.and_true, Bool.true_eq_false, and_false, iff_false]
      split
      · simp
      · next given => simpa using given

theorem parameter_violations_eq_nil_iff (row : Parameter) :
    database.parameterViolations row = [] ↔ row.FitsIn database := by
  have free : database.parameters.anyOther row.pk (·.describesAs row) = false ↔
      database.parameters.IsFreeFor Parameter.designation row :=
    Table.is_free_for_iff fun other => other.describes_as_iff row
  have fits : row.FitsIn database ↔ row.StandsIn database ∧
      database.parameters.IsFreeFor Parameter.designation row :=
    ⟨fun fits => ⟨fits.stands, fits.free⟩, fun ⟨stands, free⟩ => ⟨stands, free⟩⟩
  rw [fits, ← free]
  unfold parameterViolations Table.referred Parameter.StandsIn Table.contains
  cases database.manufacturerParts.find? row.manufacturerPart with
  | none => simp
  | some linked => simp

theorem supplier_part_violations_eq_nil_iff (row : SupplierPart) :
    database.supplierPartViolations row = [] ↔ row.kept.FitsIn database := by
  have free : database.supplierParts.anyOther row.pk (·.suppliesAs row) = false ↔
      database.supplierParts.IsFreeFor SupplierPart.designation row :=
    Table.is_free_for_iff fun other => other.supplies_as_iff row
  have references : Violation.of (database.purchaseablePart "part" row.part) ++
        Violation.of (database.companyWithRole "supplier" row.supplier .supplier) = [] ↔
      database.Offers row.part ∧ database.HasInRole .supplier row.supplier := by
    rw [List.append_eq_nil_iff, violation_of_eq_nil_iff, violation_of_eq_nil_iff,
      purchaseable_part_ok_iff, company_with_role_exists_iff]
  have fits : row.kept.FitsIn database ↔
      ((database.Offers row.part ∧ database.HasInRole .supplier row.supplier) ∧
        ∀ pk ∈ row.manufacturerPart, database.Designates pk row.part) ∧
        database.supplierParts.IsFreeFor SupplierPart.designation row :=
    ⟨fun fits => ⟨⟨⟨fits.part, fits.supplier⟩, fits.link⟩, fits.free⟩,
      fun ⟨⟨⟨part, supplier⟩, link⟩, free⟩ => ⟨part, supplier, link, free, row.kept_kept⟩⟩
  rw [fits, ← references, ← link_violations_eq_nil_iff, ← free]
  unfold supplierPartViolations
  simp only [List.append_eq_nil_iff]
  apply and_congr_right
  intro holds
  rcases holds with ⟨⟨part, supplier⟩, _⟩
  rw [part, supplier]
  simp

theorem price_break_violations_eq_nil_iff (row : PriceBreak) :
    database.priceBreakViolations row = [] ↔ row.kept.FitsIn database := by
  have free : database.priceBreaks.anyOther row.pk (·.pricesAs row) = false ↔
      database.priceBreaks.IsFreeFor PriceBreak.designation row :=
    Table.is_free_for_iff fun other => other.prices_as_iff row
  have freeKept : database.priceBreaks.IsFreeFor PriceBreak.designation row.kept ↔
      database.priceBreaks.IsFreeFor PriceBreak.designation row := by
    unfold Table.IsFreeFor
    rw [row.designation_kept]
    rfl
  have fits : row.kept.FitsIn database ↔ row.StandsIn database ∧
      database.priceBreaks.IsFreeFor PriceBreak.designation row :=
    ⟨fun fits => ⟨fits.stands, freeKept.1 fits.free⟩,
      fun ⟨stands, free⟩ => ⟨stands, freeKept.2 free, row.kept_kept⟩⟩
  rw [fits, ← free]
  unfold priceBreakViolations Table.referred PriceBreak.StandsIn Table.contains
  cases database.supplierParts.find? row.part with
  | none => simp
  | some supplierPart => simp

theorem owner_violations_eq_nil_iff (owner : AttachmentOwner) :
    database.ownerViolations owner = [] ↔ database.HasOwner owner := by
  cases owner with
  | company pk =>
      simp only [ownerViolations, HasOwner, violation_of_eq_nil_iff, Table.referred_eq_ok_iff]
      exact (Table.contains_iff_find _ _).symm
  | manufacturerPart pk =>
      simp only [ownerViolations, HasOwner, violation_of_eq_nil_iff, Table.referred_eq_ok_iff]
      exact (Table.contains_iff_find _ _).symm

end Database

/-! ## What the schema takes -/

namespace Clauses

variable {α : Type} [Keyed α] {clauses : Clauses α} {database : Database} {table : Table α}

theorem refusal_eq_none {row : α}
    (free : table.anyOther (Keyed.pk row) (clauses.sharesKey row) = false)
    (parents : clauses.hasParents database row = true) :
    clauses.refusal? database table row = none := by
  unfold refusal?
  rw [free, parents]
  rfl

theorem insert_eq_ok {row : α} (task : String)
    (taken : clauses.refusal? database table (table.keyed row) = none) :
    clauses.insert database table task row = .ok (table.keyed row, table.insert row) := by
  unfold insert
  rw [taken]

/-- A row that is inserted at all is inserted under the next key. -/
theorem eq_of_insert {row : α} {task : String} {made : α × Table α}
    (inserted : clauses.insert database table task row = .ok made) :
    made = (table.keyed row, table.insert row) := by
  unfold insert at inserted
  split at inserted
  · cases inserted
  · exact (Except.ok.inj inserted).symm

theorem replace_eq_ok {row : α} (task : String)
    (taken : clauses.refusal? database table row = none) :
    clauses.replace database table task row = .ok (table.replace row) := by
  unfold replace
  rw [taken]

theorem eq_of_replace {row : α} {task : String} {made : Table α}
    (replaced : clauses.replace database table task row = .ok made) :
    made = table.replace row := by
  unfold replace at replaced
  split at replaced
  · cases replaced
  · exact (Except.ok.inj replaced).symm

end Clauses

section Taken

variable {database : Database}

theorem Database.Offers.contains {part : Int} (offers : database.Offers part) :
    database.parts.contains part = true := by
  rcases offers with ⟨row, found, _⟩
  exact Table.contains_of_find found

theorem Company.FitsIn.taken {row : Company} (fits : row.FitsIn database) :
    clauses.refusal? database database.companies row = none := by
  refine Clauses.refusal_eq_none (Table.any_other_of_free_for ?_ fits) rfl
  intro other _ shares
  exact (beq_iff_eq.1 shares).symm

theorem ManufacturerPart.FitsIn.taken {row : ManufacturerPart} (fits : row.FitsIn database) :
    clauses.refusal? database database.manufacturerParts row = none := by
  refine Clauses.refusal_eq_none (Table.any_other_of_free_for ?_ fits.free) ?_
  · intro other _ shares
    simp only [clauses, Bool.and_eq_true, beq_iff_eq] at shares
    rcases shares with ⟨⟨⟨part, manufacturer⟩, _⟩, mpn⟩
    simp only [designation, part, manufacturer, mpn]
  · simp only [clauses, fits.part.contains, fits.manufacturer.contains, Bool.and_self]

theorem Parameter.FitsIn.taken {row : Parameter} (fits : row.FitsIn database) :
    clauses.refusal? database database.parameters row = none := by
  refine Clauses.refusal_eq_none (Table.any_other_of_free_for ?_ fits.free) fits.stands
  intro other _ shares
  simp only [clauses, Bool.and_eq_true, beq_iff_eq] at shares
  simp only [designation, shares]

theorem SupplierPart.FitsIn.taken {row : SupplierPart} (fits : row.FitsIn database) :
    clauses.refusal? database database.supplierParts row = none := by
  refine Clauses.refusal_eq_none (Table.any_other_of_free_for ?_ fits.free) ?_
  · intro other _ shares
    simp only [clauses, Bool.and_eq_true, beq_iff_eq] at shares
    simp only [designation, shares]
  · have link : row.manufacturerPart.all database.manufacturerParts.contains = true := by
      rw [Option.all_eq_true]
      intro pk linked
      exact (fits.link pk linked).contains
    simp only [clauses, fits.part.contains, fits.supplier.contains, link, Bool.and_self]

/-- The schema compares quantities as texts, which tells numbers apart only because all of them are
kept in their shortest form. -/
theorem PriceBreak.FitsIn.taken {row : PriceBreak} (fits : row.FitsIn database)
    (decimals : database.HasShortDecimals) :
    clauses.refusal? database database.priceBreaks row = none := by
  refine Clauses.refusal_eq_none (Table.any_other_of_free_for ?_ fits.free) fits.stands
  intro other member shares
  simp only [clauses, Bool.and_eq_true, beq_iff_eq] at shares
  rcases shares with ⟨part, text⟩
  have short := congrArg PriceBreak.quantity fits.short
  have otherShort := congrArg PriceBreak.quantity (decimals.priceBreaks other member)
  have sameText : row.quantity.normalize.toText = other.quantity.normalize.toText := by
    rw [show row.quantity.normalize = row.quantity from short,
      show other.quantity.normalize = other.quantity from otherShort, text]
  simp only [designation, part, Decimal.to_rat_eq_of_to_text_eq sameText]

theorem StockItem.has_parents_iff (item : StockItem) :
    clauses.hasParents database item = true ↔ item.StandsIn database := by
  simp only [clauses, StandsIn, Bool.and_eq_true, Option.all_eq_true, and_assoc, Option.mem_def]

/-- Nothing but a missing row keeps a stock item from being put in. -/
theorem StockItem.taken_iff (item : StockItem) (table : Table StockItem) :
    clauses.refusal? database table item = none ↔ item.StandsIn database := by
  have free : table.anyOther item.pk (clauses.sharesKey item) = false := by
    simp [Table.any_other_eq_false_iff, clauses]
  rw [← has_parents_iff]
  constructor
  · intro taken
    unfold Clauses.refusal? at taken
    cases parents : clauses.hasParents database item with
    | true => rfl
    | false =>
        rw [parents, show table.anyOther (Keyed.pk item) _ = false from free] at taken
        cases taken
  · exact Clauses.refusal_eq_none free

theorem Attachment.taken_of_owner {row : Attachment} (owned : database.HasOwner row.owner)
    (table : Table Attachment) : clauses.refusal? database table row = none := by
  refine Clauses.refusal_eq_none ?_ ?_
  · simp [Table.any_other_eq_false_iff, clauses]
  · unfold Database.HasOwner at owned
    simp only [clauses]
    split
    · next pk owner => simpa only [owner] using owned
    · next pk owner => simpa only [owner] using owned

end Taken

end SupplyCatalog
