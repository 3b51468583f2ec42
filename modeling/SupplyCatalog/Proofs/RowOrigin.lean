import SupplyCatalog.Proofs.Change

/-!
# Where rows come from

A row that is there after a change was there before it or is the one that was written. Rows that are
not written stay as they are, but for the link of a supplier part, which is emptied when what it
leads to goes.
-/

namespace SupplyCatalog

namespace Database

variable (database : Database) (kind : AttachmentKind) (table : Table Attachment)

@[simp]
theorem companies_set_attachments :
    (database.setAttachments kind table).companies = database.companies := by
  cases kind <;> rfl

@[simp]
theorem manufacturer_parts_set_attachments :
    (database.setAttachments kind table).manufacturerParts = database.manufacturerParts := by
  cases kind <;> rfl

@[simp]
theorem parameters_set_attachments :
    (database.setAttachments kind table).parameters = database.parameters := by
  cases kind <;> rfl

@[simp]
theorem price_breaks_set_attachments :
    (database.setAttachments kind table).priceBreaks = database.priceBreaks := by
  cases kind <;> rfl

@[simp]
theorem supplier_parts_set_attachments :
    (database.setAttachments kind table).supplierParts = database.supplierParts := by
  cases kind <;> rfl

theorem attachments_set_attachments (other : AttachmentKind) :
    (database.setAttachments kind table).attachments other =
      if other = kind then table else database.attachments other := by
  cases kind <;> cases other <;> rfl

end Database

namespace Change

variable {before : Database} {change : Change}

theorem company_origin (allowed : change.IsAllowed before) {row : Company}
    (member : row ∈ (change.apply before).companies.rows) :
    row ∈ before.companies.rows ∨
      ∃ write, change = .writeCompany write ∧ row = write.result before.companies := by
  cases change with
  | writeCompany write =>
      rcases (Write.mem_apply allowed.1 row).1 member with ⟨old, _⟩ | new
      · exact .inl old
      · exact .inr ⟨write, rfl, new⟩
  | removeCompany pk => exact .inl ((Table.mem_erase _ _ _).1 member).1
  | addAttachment new =>
      rw [apply, Database.companies_set_attachments] at member
      exact .inl member
  | removeAttachment kind pk =>
      rw [apply, Database.companies_set_attachments] at member
      exact .inl member
  | _ => exact .inl member

theorem manufacturer_part_origin (allowed : change.IsAllowed before) {row : ManufacturerPart}
    (member : row ∈ (change.apply before).manufacturerParts.rows) :
    row ∈ before.manufacturerParts.rows ∨
      ∃ write, change = .writeManufacturerPart write ∧
        row = write.result before.manufacturerParts := by
  cases change with
  | writeManufacturerPart write =>
      rcases (Write.mem_apply allowed.1 row).1 member with ⟨old, _⟩ | new
      · exact .inl old
      · exact .inr ⟨write, rfl, new⟩
  | removeCompany pk => exact .inl (Database.not_made_by_gone member).1
  | removeManufacturerPart pk => exact .inl ((Table.mem_left _ _ _).1 member).1
  | addAttachment new =>
      rw [apply, Database.manufacturer_parts_set_attachments] at member
      exact .inl member
  | removeAttachment kind pk =>
      rw [apply, Database.manufacturer_parts_set_attachments] at member
      exact .inl member
  | _ => exact .inl member

theorem parameter_origin (allowed : change.IsAllowed before) {row : Parameter}
    (member : row ∈ (change.apply before).parameters.rows) :
    row ∈ before.parameters.rows ∨
      ∃ write, change = .writeParameter write ∧ row = write.result before.parameters := by
  cases change with
  | writeParameter write =>
      rcases (Write.mem_apply allowed.1 row).1 member with ⟨old, _⟩ | new
      · exact .inl old
      · exact .inr ⟨write, rfl, new⟩
  | removeCompany pk => exact .inl ((Table.mem_keep _ _ _).1 member).1
  | removeManufacturerPart pk => exact .inl ((Table.mem_keep _ _ _).1 member).1
  | removeParameter pk => exact .inl ((Table.mem_erase _ _ _).1 member).1
  | addAttachment new =>
      rw [apply, Database.parameters_set_attachments] at member
      exact .inl member
  | removeAttachment kind pk =>
      rw [apply, Database.parameters_set_attachments] at member
      exact .inl member
  | _ => exact .inl member

theorem price_break_origin (allowed : change.IsAllowed before) {row : PriceBreak}
    (member : row ∈ (change.apply before).priceBreaks.rows) :
    row ∈ before.priceBreaks.rows ∨
      ∃ write, change = .writePriceBreak write ∧ row = write.result before.priceBreaks := by
  cases change with
  | writePriceBreak write =>
      rcases (Write.mem_apply allowed.1 row).1 member with ⟨old, _⟩ | new
      · exact .inl old
      · exact .inr ⟨write, rfl, new⟩
  | removeCompany pk => exact .inl ((Table.mem_keep _ _ _).1 member).1
  | removeSupplierPart pk => exact .inl ((Table.mem_keep _ _ _).1 member).1
  | removePriceBreak pk => exact .inl ((Table.mem_erase _ _ _).1 member).1
  | addAttachment new =>
      rw [apply, Database.price_breaks_set_attachments] at member
      exact .inl member
  | removeAttachment kind pk =>
      rw [apply, Database.price_breaks_set_attachments] at member
      exact .inl member
  | _ => exact .inl member

theorem attachment_origin {kind : AttachmentKind} {row : Attachment}
    (member : row ∈ ((change.apply before).attachments kind).rows) :
    row ∈ (before.attachments kind).rows ∨
      ∃ new, change = .addAttachment new ∧ new.owner.kind = kind ∧
        row = (before.attachments kind).keyed new := by
  cases change with
  | addAttachment new =>
      rw [apply, Database.attachments_set_attachments] at member
      split at member
      · rename_i same
        subst same
        rcases (Table.mem_insert _ _ _).1 member with old | added
        · exact .inl old
        · exact .inr ⟨new, rfl, rfl, added⟩
      · exact .inl member
  | removeAttachment other pk =>
      rw [apply, Database.attachments_set_attachments] at member
      split at member
      · rename_i same
        subst same
        exact .inl ((Table.mem_erase _ _ _).1 member).1
      · exact .inl member
  | removeCompany pk =>
      cases kind with
      | company => exact .inl ((Table.mem_keep _ _ _).1 member).1
      | manufacturerPart => exact .inl ((Table.mem_keep _ _ _).1 member).1
  | removeManufacturerPart pk =>
      cases kind with
      | company => exact .inl member
      | manufacturerPart => exact .inl ((Table.mem_keep _ _ _).1 member).1
  | _ => cases kind <;> exact .inl member

/-- A change that writes no supplier part empties links at most. -/
theorem supplier_part_of_unwritten (unwritten : ∀ write, change ≠ .writeSupplierPart write)
    {row : SupplierPart} (member : row ∈ (change.apply before).supplierParts.rows) :
    ∃ old ∈ before.supplierParts.rows, ∃ link, row = { old with manufacturerPart := link } := by
  have same (unchanged : row ∈ before.supplierParts.rows) :
      ∃ old ∈ before.supplierParts.rows, ∃ link, row = { old with manufacturerPart := link } :=
    ⟨row, unchanged, row.manufacturerPart, rfl⟩
  have unlinked {isGone : ManufacturerPart → Bool}
      (left : row ∈ (before.removeManufacturerParts isGone).supplierParts.rows) :
      ∃ old ∈ before.supplierParts.rows, ∃ link, row = { old with manufacturerPart := link } := by
    obtain ⟨old, oldMember, rfl⟩ := (Database.mem_unlinked isGone row).1 left
    obtain ⟨link, changed, _⟩ := old.unlink_eq _
    exact ⟨old, oldMember, link, changed⟩
  cases change with
  | writeSupplierPart write => exact absurd rfl (unwritten write)
  | removeCompany pk => exact unlinked (Database.not_supplied_by_gone member).1
  | removeManufacturerPart pk => exact unlinked member
  | removeSupplierPart pk => exact same ((Table.mem_left _ _ row).1 member).1
  | addAttachment new =>
      rw [apply, Database.supplier_parts_set_attachments] at member
      exact same member
  | removeAttachment kind pk =>
      rw [apply, Database.supplier_parts_set_attachments] at member
      exact same member
  | _ => exact same member

theorem supplier_part_origin (allowed : change.IsAllowed before) {row : SupplierPart}
    (member : row ∈ (change.apply before).supplierParts.rows) :
    (∃ old ∈ before.supplierParts.rows, ∃ link, row = { old with manufacturerPart := link }) ∨
      ∃ write, change = .writeSupplierPart write ∧ row = write.result before.supplierParts := by
  by_cases written : ∃ write, change = .writeSupplierPart write
  · obtain ⟨write, rfl⟩ := written
    rcases (Write.mem_apply allowed.1 row).1 member with ⟨old, _⟩ | new
    · exact .inl ⟨row, old, row.manufacturerPart, rfl⟩
    · exact .inr ⟨write, rfl, new⟩
  · apply Or.inl
    apply supplier_part_of_unwritten _ member
    intro write same
    exact written ⟨write, same⟩

end Change

end SupplyCatalog
