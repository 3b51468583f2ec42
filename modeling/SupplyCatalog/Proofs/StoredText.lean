import SupplyCatalog.Proofs.Run
import SupplyCatalog.Proofs.TimeText

/-!
# Texts in the database

Decimals, instants and dates are kept as texts. Decimals are in their shortest form, and as long as
the clock shows a year of four digits, so are all instants and dates; then every text reads back as
the value for which it was written.
-/

namespace SupplyCatalog

/-! ## Times of rows -/

/-- The times of the row are such as read back from their texts. -/
structure SupplierPart.IsTimed (row : SupplierPart) : Prop where
  updated : ∀ instant ∈ row.updated, instant.IsWritable
  reported : ∀ instant ∈ row.availabilityUpdated, instant.IsWritable

def PriceBreak.IsTimed (row : PriceBreak) : Prop :=
  ∀ instant ∈ row.updated, instant.IsWritable

structure Database.IsTimed (database : Database) : Prop where
  supplierParts : ∀ row ∈ database.supplierParts.rows, row.IsTimed
  priceBreaks : ∀ row ∈ database.priceBreaks.rows, row.IsTimed
  attachments : ∀ kind, ∀ row ∈ (database.attachments kind).rows, row.uploadDate.IsWritable

def Change.IsTimed (database : Database) : Change → Prop
  | writeSupplierPart write => (write.result database.supplierParts).IsTimed
  | writePriceBreak write => (write.result database.priceBreaks).IsTimed
  | addAttachment row => row.uploadDate.IsWritable
  | _ => True

/-- The clock by which the operation is carried out shows a year of four digits. -/
def Operation.IsTimed : Operation → Prop
  | createSupplierPart _ now => now.IsWritable
  | updateSupplierPart _ _ now => now.IsWritable
  | createPriceBreak _ _ now => now.IsWritable
  | updatePriceBreak _ _ now => now.IsWritable
  | createAttachment _ _ today => today.IsWritable
  | _ => True

namespace Database

variable {before : Database}

theorem empty_is_timed : empty.IsTimed := by
  constructor <;> simp [empty, attachments, Table.empty]
  rintro ⟨⟩ <;> simp

/-! ## Removals -/

theorem IsTimed.without_manufacturer_parts (times : before.IsTimed)
    (isGone : ManufacturerPart → Bool) : (before.removeManufacturerParts isGone).IsTimed where
  supplierParts := by
    intro row member
    obtain ⟨old, oldMember, rfl⟩ := (mem_unlinked isGone row).1 member
    obtain ⟨link, unlinked, _⟩ := old.unlink_eq _
    have timed := times.supplierParts old oldMember
    rw [unlinked]
    exact ⟨timed.updated, timed.reported⟩
  priceBreaks := times.priceBreaks
  attachments := by
    intro kind row member
    cases kind with
    | company => exact times.attachments .company row member
    | manufacturerPart =>
        exact times.attachments .manufacturerPart row ((Table.mem_keep _ _ row).1 member).1

theorem IsTimed.without_supplier_parts (times : before.IsTimed) (isGone : SupplierPart → Bool) :
    (before.removeSupplierParts isGone).IsTimed where
  supplierParts row member := times.supplierParts row ((Table.mem_left _ isGone row).1 member).1
  priceBreaks row member := times.priceBreaks row ((Table.mem_keep _ _ row).1 member).1
  attachments kind row member := by
    cases kind with
    | company => exact times.attachments .company row member
    | manufacturerPart => exact times.attachments .manufacturerPart row member

theorem IsTimed.without_company (times : before.IsTimed) (pk : Int) :
    (before.removeCompany pk).IsTimed := by
  have left := (times.without_manufacturer_parts
    (·.manufacturer == pk)).without_supplier_parts (·.supplier == pk)
  refine ⟨left.supplierParts, left.priceBreaks, ?_⟩
  intro kind row member
  cases kind with
  | company => exact times.attachments .company row ((Table.mem_keep _ _ row).1 member).1
  | manufacturerPart => exact left.attachments .manufacturerPart row member

/-! ## Changes -/

theorem IsTimed.set_attachments (times : before.IsTimed) (kind : AttachmentKind)
    {table : Table Attachment} (dated : ∀ row ∈ table.rows, row.uploadDate.IsWritable) :
    (before.setAttachments kind table).IsTimed := by
  cases kind with
  | company =>
      refine { times with attachments := ?_ }
      intro other row member
      cases other with
      | company => exact dated row member
      | manufacturerPart => exact times.attachments .manufacturerPart row member
  | manufacturerPart =>
      refine { times with attachments := ?_ }
      intro other row member
      cases other with
      | company => exact times.attachments .company row member
      | manufacturerPart => exact dated row member

theorem IsTimed.apply {change : Change} (times : before.IsTimed)
    (allowed : change.IsAllowed before) (timed : change.IsTimed before) :
    (change.apply before).IsTimed := by
  cases change with
  | writeSupplierPart write =>
      exact { times with
        supplierParts := Write.forall_apply allowed.1 times.supplierParts timed }
  | writePriceBreak write =>
      exact { times with priceBreaks := Write.forall_apply allowed.1 times.priceBreaks timed }
  | addAttachment row =>
      apply times.set_attachments
      intro other member
      rcases (Table.mem_insert _ _ _).1 member with old | rfl
      · exact times.attachments row.owner.kind other old
      · exact timed
  | removeCompany pk => exact times.without_company pk
  | removeManufacturerPart pk => exact times.without_manufacturer_parts _
  | removeSupplierPart pk => exact times.without_supplier_parts _
  | removePriceBreak pk =>
      have left : ∀ row ∈ (before.priceBreaks.erase pk).rows, row.IsTimed := by
        intro row member
        exact times.priceBreaks row ((Table.mem_erase _ _ _).1 member).1
      exact { times with priceBreaks := left }
  | removeAttachment kind pk =>
      apply times.set_attachments
      intro row member
      exact times.attachments kind row ((Table.mem_erase _ _ _).1 member).1
  | addPart row => exact { times with }
  | addStockItem item => exact { times with }
  | writeCompany write => exact { times with }
  | writeManufacturerPart write => exact { times with }
  | writeParameter write => exact { times with }
  | removeParameter pk => exact { times with }

end Database

/-! ## Operations -/

theorem SupplierPart.IsTimed.reported_kept {row : SupplierPart} (timed : row.IsTimed)
    (quantity : Option Decimal) {now : Instant} (clock : now.IsWritable) :
    (({ row with updated := some now } : SupplierPart).reported quantity now).kept.IsTimed := by
  have shown : ∀ instant ∈ some now, instant.IsWritable := by
    rintro instant ⟨⟩
    exact clock
  cases quantity with
  | none => exact ⟨shown, timed.reported⟩
  | some quantity => exact ⟨shown, shown⟩

theorem SupplierPartInput.created_is_timed (input : SupplierPartInput) {now : Instant}
    (clock : now.IsWritable) : (input.created now).IsTimed := by
  have blank : input.changes.create.IsTimed := by
    constructor <;> rintro instant ⟨⟩
  exact blank.reported_kept input.available clock

theorem SupplierPart.IsTimed.changed {row : SupplierPart} (timed : row.IsTimed)
    (input : SupplierPartInput) {now : Instant} (clock : now.IsWritable) :
    (row.changed input now).IsTimed := by
  have applied : (input.changes.applyTo row).IsTimed := ⟨timed.updated, timed.reported⟩
  exact applied.reported_kept input.available clock

namespace Operation

theorem run_is_timed {store : Store} {operation : Operation} (sound : store.database.IsSound)
    (times : store.database.IsTimed) (timed : operation.IsTimed) :
    (operation.run store).2.database.IsTimed := by
  by_cases succeeds : operation.Succeeds store
  · obtain ⟨changes, makes, allowed, result⟩ := Store.changes_of_success sound succeeds
    rw [result]
    cases makes with
    | createSupplierPart creates =>
        rename_i input now
        have created := input.created_is_timed timed
        cases creates with
        | unlinked none => exact times.apply allowed.1 ⟨created.updated, created.reported⟩
        | found link target given found =>
            exact times.apply allowed.1 ⟨created.updated, created.reported⟩
        | made link given none =>
            exact (times.apply allowed.1 trivial).apply allowed.2.1
              ⟨created.updated, created.reported⟩
    | updateSupplierPart found input now =>
        have member := Table.mem_of_find found
        exact times.apply allowed.1 ((times.supplierParts _ member).changed input timed)
    | createPriceBreak changes currencies now =>
        apply times.apply allowed.1
        rintro instant ⟨⟩
        exact timed
    | updatePriceBreak found changes now =>
        apply times.apply allowed.1
        rintro instant ⟨⟩
        exact timed
    | createAttachment kind input today => exact times.apply allowed.1 timed
    | _ => exact times.apply allowed.1 trivial
  · rw [Store.database_of_failure sound succeeds]
    exact times

end Operation

theorem Store.after_is_timed {store : Store} (operations : List Operation)
    (sound : store.database.IsSound) (times : store.database.IsTimed)
    (clocks : ∀ operation ∈ operations, operation.IsTimed) :
    (store.after operations).database.IsTimed := by
  induction operations generalizing store with
  | nil => exact times
  | cons operation rest induction =>
      have clock := clocks operation List.mem_cons_self
      have later := fun other member => clocks other (List.mem_cons_of_mem operation member)
      exact induction (run_is_sound sound operation) (operation.run_is_timed sound times clock)
        later

/-! ## Reading back -/

/-- The value is read again from the text under which it is kept. -/
def Decimal.ReadsBack (value : Decimal) : Prop := readPlain? value.normalize.toText = some value

def Instant.ReadsBack (instant : Instant) : Prop := read? instant.toOffsetText = some instant

def Date.ReadsBack (date : Date) : Prop := read? date.toText = some date

theorem Decimal.reads_back {value : Decimal} (short : value.normalize = value) :
    value.ReadsBack := by
  have read := read_plain_normalize value
  rw [ReadsBack]
  rw [short] at read ⊢
  exact read

structure SupplierPart.ReadsBack (row : SupplierPart) : Prop where
  packSize : row.packSize.ReadsBack
  available : row.available.ReadsBack
  updated : ∀ instant ∈ row.updated, instant.ReadsBack
  reported : ∀ instant ∈ row.availabilityUpdated, instant.ReadsBack

structure PriceBreak.ReadsBack (row : PriceBreak) : Prop where
  quantity : row.quantity.ReadsBack
  price : ∀ price ∈ row.price, price.ReadsBack
  updated : ∀ instant ∈ row.updated, instant.ReadsBack

/-- All texts in the database read back as the values for which they were written. -/
structure Database.ReadsBack (database : Database) : Prop where
  supplierParts : ∀ row ∈ database.supplierParts.rows, row.ReadsBack
  priceBreaks : ∀ row ∈ database.priceBreaks.rows, row.ReadsBack
  attachments : ∀ kind, ∀ row ∈ (database.attachments kind).rows, row.uploadDate.ReadsBack

theorem Database.reads_back {database : Database} (decimals : database.HasShortDecimals)
    (times : database.IsTimed) : database.ReadsBack where
  supplierParts row member := by
    have short := decimals.supplierParts row member
    have timed := times.supplierParts row member
    refine ⟨Decimal.reads_back (congrArg SupplierPart.packSize short),
      Decimal.reads_back (congrArg SupplierPart.available short), ?_, ?_⟩
    · intro instant shown
      exact Instant.read_to_offset_text (timed.updated instant shown)
    · intro instant shown
      exact Instant.read_to_offset_text (timed.reported instant shown)
  priceBreaks row member := by
    have short := decimals.priceBreaks row member
    refine ⟨Decimal.reads_back (congrArg PriceBreak.quantity short), ?_, ?_⟩
    · intro price given
      have same : row.price.map (·.normalize) = row.price := congrArg PriceBreak.price short
      rw [Option.mem_def.1 given] at same
      exact Decimal.reads_back (Option.some.inj same)
    · intro instant shown
      exact Instant.read_to_offset_text (times.priceBreaks row member instant shown)
  attachments kind row member := Date.read_to_text (times.attachments kind row member)

end SupplyCatalog
