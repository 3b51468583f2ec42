import SupplyCatalog.Proofs.AttachedFile
import SupplyCatalog.Proofs.Cascade

/-!
# Files that no attachment leads to

The file of an attachment goes when the attachment itself is deleted. When its owner is deleted the
attachment goes with it and the file stays. So every attached file belongs to an attachment all
through a run exactly when no owner of attached files is deleted in it, neither by itself nor with
the company that makes it.
-/

namespace SupplyCatalog

def MediaPath.IsOfAttachment (place : MediaPath) : Prop := ["attachments"] <+: place

/-- An attachment leads to every attached file. -/
def Store.HasNoOrphans (store : Store) : Prop :=
  ∀ place : MediaPath, place.IsOfAttachment → store.media.isFile place = true →
    ∃ kind, ∃ row ∈ (store.database.attachments kind).rows, ∃ path ∈ row.path,
      MediaPath.ofText path = place

theorem Store.empty_has_no_orphans : empty.HasNoOrphans := by
  intro place inside file
  cases file

theorem MediaPath.not_of_image_of_attachment {place : MediaPath} (attached : place.IsOfAttachment) :
    ¬ place.IsOfImage := by
  obtain ⟨rest, rfl⟩ := attached
  simp [IsOfImage, Company.imageDirectory]

theorem AttachmentOwner.Holds.is_of_attachment {owner : AttachmentOwner} {path : String}
    (holds : owner.Holds path) : (MediaPath.ofText path).IsOfAttachment := by
  obtain ⟨name, place⟩ := holds.of_text
  rw [place]
  exact ⟨[owner.kind.directory, toString owner.pk, name], rfl⟩

namespace Operation

variable {store : Store} {operation : Operation}

/-- The owner of an attachment goes with what the operation deletes. -/
def TakesOwner (store : Store) (owner : AttachmentOwner) : Operation → Prop
  | deleteCompany pk => (store.database.goneWithCompany pk).takes owner = true
  | deleteManufacturerPart pk => owner = .manufacturerPart pk
  | _ => False

/-- The operation deletes the owner of an attached file. -/
def LeavesFile (store : Store) (operation : Operation) : Prop :=
  operation.Succeeds store ∧ ∃ kind, ∃ row ∈ (store.database.attachments kind).rows,
    row.path.isSome = true ∧ operation.TakesOwner store row.owner

/-! ## Attachments after an operation -/

/-- An attachment goes when it is deleted or its owner is. -/
theorem attachment_stays_iff (sound : store.database.IsSound) {changes : List Change}
    (makes : operation.Makes store changes) {kind : AttachmentKind} {row : Attachment}
    (old : row ∈ (store.database.attachments kind).rows) :
    row ∈ ((Change.applyAll store.database changes).attachments kind).rows ↔
      ¬ (operation = .deleteAttachment kind row.pk ∨ operation.TakesOwner store row.owner) := by
  have kept {removal : Removal}
      (result : Change.applyAll store.database changes = store.database.without removal) :
      row ∈ ((Change.applyAll store.database changes).attachments kind).rows ↔
        ¬ removal.takes row.owner = true := by
    rw [result, Database.attachments_without, Table.mem_keep]
    simp [old]
  cases makes with
  | deleteCompany present =>
      rw [kept (Database.removed_company sound.references _)]
      simp [TakesOwner]
  | deleteManufacturerPart present =>
      rw [kept (Database.removed_manufacturer_part sound.references present)]
      cases row.owner <;> simp [TakesOwner, Removal.takes, Removal.ofManufacturerParts]
  | @deleteAttachment other pk present =>
      change row ∈ ((store.database.setAttachments other _).attachments kind).rows ↔ _
      rw [Database.attachments_set_attachments]
      by_cases same : kind = other
      · subst same
        simp [Table.mem_erase, old, TakesOwner, eq_comm, Keyed.pk]
      · simp [same, old, TakesOwner, Ne.symm same]
  | createAttachment other input today =>
      refine iff_of_true ?_ (by simp [TakesOwner])
      change row ∈ ((store.database.setAttachments _ _).attachments kind).rows
      rw [Database.attachments_set_attachments]
      split
      · rename_i same
        exact (Table.mem_insert _ _ _).2 (.inl (same ▸ old))
      · exact old
  | createSupplierPart creates =>
      refine iff_of_true ?_ (by simp [TakesOwner])
      cases creates <;> cases kind <;> exact old
  | _ =>
      refine iff_of_true ?_ (by simp [TakesOwner])
      cases kind <;> exact old

/-! ## One operation -/

/-- A file that is written among the attached files is that of a new attachment. -/
theorem attachment_of_written (sound : store.database.IsSound) (succeeds : operation.Succeeds store)
    {file : String × Bytes} (asked : file ∈ operation.file store)
    (attached : (MediaPath.ofText file.1).IsOfAttachment) :
    ∃ kind, ∃ row ∈ ((operation.run store).2.database.attachments kind).rows,
      file.1 ∈ row.path := by
  obtain ⟨changes, makes, _, result⟩ := Store.changes_of_success sound succeeds
  rw [result]
  have noImage := MediaPath.not_of_image_of_attachment attached
  cases makes with
  | createCompany changes image =>
      obtain ⟨picture, _, rfl⟩ := Option.map_eq_some_iff.1 asked
      exact absurd (CompanyImage.is_of_image _ _) noImage
  | updateCompany found changes image =>
      obtain ⟨picture, _, rfl⟩ := Option.map_eq_some_iff.1 asked
      exact absurd (CompanyImage.is_of_image _ _) noImage
  | createAttachment kind input today =>
      have stored : input.stored (kind.owner input.owner) store.media.freePath = some file := asked
      let new := input.created (kind.owner input.owner) store.media.freePath today
      refine ⟨new.owner.kind, (store.database.attachments new.owner.kind).keyed new, ?_, ?_⟩
      · change _ ∈ ((store.database.setAttachments new.owner.kind _).attachments _).rows
        rw [Database.attachments_set_attachments, if_pos rfl]
        exact (Table.mem_insert _ _ _).2 (.inr rfl)
      · change (input.stored _ _).map (·.1) = some file.1
        rw [stored]
        rfl
  | _ => cases asked

section Step

variable (sound : store.database.IsSound)

include sound

/-- A file whose attachment goes goes with it, unless the owner is deleted. -/
theorem no_orphans_of_spared (whole : store.HasNoOrphans) (spared : ¬ operation.LeavesFile store) :
    (operation.run store).2.HasNoOrphans := by
  intro place attached file
  by_cases succeeds : operation.Succeeds store
  · by_cases written : ∃ asked ∈ operation.file store, MediaPath.ofText asked.1 = place
    · obtain ⟨asked, member, rfl⟩ := written
      obtain ⟨kind, row, new, stored⟩ := attachment_of_written sound succeeds member attached
      exact ⟨kind, row, new, asked.1, stored, rfl⟩
    have unremoved : ∀ path ∈ operation.abandoned store, MediaPath.ofText path ≠ place := by
      rintro path gone rfl
      rw [MediaTree.isFile, read_of_abandoned sound succeeds gone] at file
      cases file
    have unwritten : ∀ asked ∈ operation.file store, MediaPath.ofText asked.1 ≠ place :=
      fun asked member same => written ⟨asked, member, same⟩
    rw [MediaTree.isFile, read_of_untouched sound unwritten unremoved] at file
    obtain ⟨kind, row, old, path, stored, rfl⟩ := whole place attached file
    obtain ⟨changes, makes, _, result⟩ := Store.changes_of_success sound succeeds
    refine ⟨kind, row, ?_, path, stored, rfl⟩
    rw [result, attachment_stays_iff sound makes old]
    rintro (rfl | taken)
    · have found : (store.database.attachments kind).find? row.pk = some row :=
        (Table.find_eq_some_iff _ _ _).2 ⟨old, rfl⟩
      exact unremoved path (Option.bind_eq_some_iff.2 ⟨row, found, stored⟩) rfl
    · exact spared ⟨succeeds, kind, row, old, Option.isSome_of_mem stored, taken⟩
  · rw [MediaTree.isFile, read_of_failure sound succeeds] at file
    rw [Store.database_of_failure sound succeeds]
    exact whole place attached file

/-- The file of an attachment whose owner is deleted stays, and no attachment leads to it. -/
theorem orphan_of_left {uploads : AttachmentKind × Int → Option UploadedFile}
    (holds : store.HoldsUploads uploads) (places : store.database.HasPlaces)
    (leaves : operation.LeavesFile store) : ¬ (operation.run store).2.HasNoOrphans := by
  obtain ⟨succeeds, kind, row, old, came, taken⟩ := leaves
  obtain ⟨path, stored⟩ := Option.isSome_iff_exists.1 came
  have attached := (places.attachments kind row old path stored).is_of_attachment
  obtain ⟨changes, makes, _, result⟩ := Store.changes_of_success sound succeeds
  have gone : row ∉ ((operation.run store).2.database.attachments kind).rows := by
    rw [result, attachment_stays_iff sound makes old]
    exact not_not_intro (.inr taken)
  have untouched : (operation.run store).2.media.read? (MediaPath.ofText path) =
      store.media.read? (MediaPath.ofText path) := by
    apply read_of_untouched sound
    · intro file asked
      cases operation with
      | deleteCompany pk => cases asked
      | deleteManufacturerPart pk => cases asked
      | _ => exact taken.elim
    · intro other left same
      rcases place_of_removed places left with image | ⟨_, _, _, rfl, _⟩
      · rw [same] at image
        exact MediaPath.not_of_image_of_attachment attached image
      · exact taken
  intro whole
  obtain ⟨file, _, content⟩ := holds.read_held old stored
  have stays : (operation.run store).2.media.isFile (MediaPath.ofText path) = true := by
    rw [MediaTree.isFile, untouched, content]
    rfl
  obtain ⟨otherKind, other, member, otherPath, otherStored, same⟩ := whole _ attached stays
  rw [result] at member
  rcases attachment_origin makes member with otherOld | new
  · obtain ⟨rfl, rfl⟩ :=
      holds.apart kind row old path stored otherKind other otherOld otherPath
        otherStored same.symm
    rw [← result] at member
    exact gone member
  · cases new
    exact taken

end Step

end Operation

/-! ## Runs -/

/-- Every attached file belongs to an attachment all through a run exactly when no operation of the
run deletes the owner of an attached file, be it the company or the manufacturer part itself or the
company that makes the manufacturer part. Requests see to it that attached files have proper
names. -/
theorem Store.no_orphans_throughout_iff (operations : List Operation)
    (wellNamed : ∀ operation ∈ operations, operation.IsWellNamed) :
    (∀ before, before <+: operations → (empty.after before).HasNoOrphans) ↔
      ∀ before operation, before ++ [operation] <+: operations →
        ¬ operation.LeavesFile (empty.after before) := by
  refine kept_throughout_iff empty_has_no_orphans fun before operation taken whole => ?_
  have named : ∀ earlier ∈ before, earlier.IsWellNamed := fun earlier member =>
    wellNamed earlier (taken.subset (List.mem_append_left _ member))
  have sound := reachable_is_sound before
  constructor
  · intro after leaves
    exact Operation.orphan_of_left sound (holds_uploads_after before named)
      (has_places_after before named) leaves after
  · exact Operation.no_orphans_of_spared sound whole

open SmallCatalogue in
/-- One attachment of this run is deleted, and no owner. -/
theorem attached_run_leaves_no_orphan :
    (∀ operation ∈ attachedRun, operation.IsWellNamed) ∧
      (Store.empty.after attachedRun).HasNoOrphans := by
  refine ⟨attached_run_is_well_named, ?_⟩
  apply (Store.no_orphans_throughout_iff attachedRun attached_run_is_well_named).2
  · intro before operation taken leaves
    obtain ⟨_, kind, row, _, _, owner⟩ := leaves
    have member : operation ∈ attachedRun :=
      taken.subset (List.mem_append_right _ List.mem_cons_self)
    simp only [attachedRun, setUp, List.cons_append, List.nil_append, List.mem_cons,
      List.not_mem_nil, or_false] at member
    rcases member with rfl | rfl | rfl | rfl | rfl | rfl | rfl | rfl | rfl | rfl
    all_goals exact owner
  · exact List.prefix_rfl

namespace SmallCatalogue

def abandonedRun : List Operation :=
  setUp ++ [upload .manufacturerPart [4], .deleteCompany 1]

theorem abandoned_run_is_well_named : ∀ operation ∈ abandonedRun, operation.IsWellNamed := by
  intro operation member
  simp only [abandonedRun, setUp, List.cons_append, List.nil_append, List.mem_cons,
    List.not_mem_nil, or_false] at member
  rcases member with rfl | rfl | rfl | rfl | rfl | rfl | rfl
  all_goals first | trivial | exact upload_is_well_named _ _

def abandonedPlace : MediaPath := ["attachments", "manufacturer_part_files", "1", "terms.txt"]

end SmallCatalogue

open SmallCatalogue in
/-- So there are runs after which an attached file belongs to no attachment. -/
theorem file_without_attachment :
    ¬ ∀ operations : List Operation, (∀ operation ∈ operations, operation.IsWellNamed) →
      (Store.empty.after operations).HasNoOrphans := by
  intro always
  have file : (Store.empty.after abandonedRun).media.isFile abandonedPlace = true := by
    decide +kernel
  obtain ⟨kind, row, member, _⟩ :=
    always abandonedRun abandoned_run_is_well_named abandonedPlace ⟨_, rfl⟩ file
  have none : ((Store.empty.after abandonedRun).database.attachments kind).rows = [] := by
    cases kind <;> decide +kernel
  rw [none] at member
  cases member

end SupplyCatalog
