import SupplyCatalog.Proofs.Journal

/-!
# Files of attachments

Every attachment that came with a file has that file for itself: it is there, no other attachment
leads to it, and its content is what was uploaded. Whether a place is free is told by the files
alone; since the file of every attachment is there, a place that is free is the place of none.
Files that the removal of an owner leaves behind only make fewer places free.
-/

namespace SupplyCatalog

/-! ## The journal of uploads -/

/-- A new attachment, told by its kind and its key, and the file that comes with it. No key is given
out twice. -/
def Operation.uploaded (store : Store) (operation : Operation)
    (_ : AttachmentKind × Int → Option UploadedFile) :
    Option ((AttachmentKind × Int) × Option UploadedFile) :=
  match operation with
  | createAttachment kind input _ =>
      some ((kind, (store.database.attachments kind).nextPk), input.file)
  | _ => none

def Store.uploads (operations : List Operation) : AttachmentKind × Int → Option UploadedFile :=
  journal (enter Operation.uploaded) (fun _ => none) operations

/-- Every attachment has the file that was uploaded with it, and has it for itself. -/
structure Store.HoldsUploads (store : Store)
    (uploads : AttachmentKind × Int → Option UploadedFile) : Prop where
  held : ∀ kind, ∀ row ∈ (store.database.attachments kind).rows,
    row.path.map (fun path => store.media.read? (MediaPath.ofText path)) =
      (uploads (kind, row.pk)).map fun file => some file.content
  apart : ∀ kind, ∀ row ∈ (store.database.attachments kind).rows, ∀ path ∈ row.path,
    ∀ otherKind, ∀ other ∈ (store.database.attachments otherKind).rows, ∀ otherPath ∈ other.path,
      MediaPath.ofText path = MediaPath.ofText otherPath → kind = otherKind ∧ row = other

/-! ## Attachments after an operation -/

namespace Operation

variable {store : Store} {operation : Operation} {changes : List Change}
  {uploads : AttachmentKind × Int → Option UploadedFile}

inductive Attaches (store : Store) : Operation → AttachmentKind → Attachment → Prop
  | created (kind : AttachmentKind) (input : AttachmentInput) (today : Date) :
      Attaches store (.createAttachment kind input today) kind
        ((store.database.attachments kind).keyed
          (input.created (kind.owner input.owner) store.media.freePath today))

namespace Attaches

variable {kind : AttachmentKind} {row : Attachment} (attaches : operation.Attaches store kind row)

include attaches

theorem unique {otherKind : AttachmentKind} {other : Attachment}
    (same : operation.Attaches store otherKind other) : kind = otherKind ∧ row = other := by
  cases attaches
  cases same
  exact ⟨rfl, rfl⟩

/-- Nothing has stood where its file is put. -/
theorem free (wellNamed : operation.IsWellNamed) {path : String} (stored : path ∈ row.path) :
    store.media.has path = false := by
  cases attaches with
  | created kind input today =>
      obtain ⟨file, kept, rfl⟩ := Option.map_eq_some_iff.1 stored
      obtain ⟨uploaded, given, rfl⟩ := Option.map_eq_some_iff.1 kept
      exact (AttachmentOwner.holds_free_path _ (wellNamed uploaded given) _).2

/-- Its file is the one that is noted. -/
theorem read_new (sound : store.database.IsSound) (succeeds : operation.Succeeds store) :
    row.path.map (fun path => (operation.run store).2.media.read? (MediaPath.ofText path)) =
      (Store.enter uploaded store operation uploads (kind, row.pk)).map
        fun file => some file.content := by
  cases attaches with
  | created kind input today =>
      have own : Store.enter uploaded store (createAttachment kind input today) uploads
          (kind, (store.database.attachments kind).nextPk) = input.file := by
        rw [Store.enter_of_some succeeds rfl]
        exact Function.update_self _ _ _
      change Option.map _ ((input.stored _ _).map (·.1)) =
        Option.map _ (Store.enter _ _ _ _ (kind, (store.database.attachments kind).nextPk))
      rw [own, AttachmentInput.stored]
      cases given : input.file with
      | none => rfl
      | some uploaded =>
          have asked := congrArg (Option.map fun file : UploadedFile =>
            (store.media.freePath ((kind.owner input.owner).storagePath file.name),
              file.content)) given
          exact congrArg some (read_of_written sound succeeds asked (by simp [abandoned]))

end Attaches

theorem attachment_origin (makes : operation.Makes store changes) {kind : AttachmentKind}
    {row : Attachment}
    (member : row ∈ ((Change.applyAll store.database changes).attachments kind).rows) :
    row ∈ (store.database.attachments kind).rows ∨ operation.Attaches store kind row := by
  have origin {change : Change} (only : changes = [change]) :=
    @Change.attachment_origin store.database change kind row (by subst only; exact member)
  cases makes with
  | createSupplierPart creates =>
      cases creates <;> cases kind <;> exact .inl member
  | createAttachment other input today =>
      rcases origin rfl with old | ⟨new, same, ofKind, rfl⟩
      · exact .inl old
      · cases same
        have own : other = kind := by
          rw [← ofKind]
          cases other <;> rfl
        subst own
        exact .inr (.created _ input today)
  | _ =>
      rcases origin rfl with old | ⟨new, same, _⟩
      · exact .inl old
      · cases same

/-- What is noted of an attachment that is there stays. -/
theorem uploads_of_old {kind : AttachmentKind} {row : Attachment}
    (old : row ∈ (store.database.attachments kind).rows) :
    Store.enter uploaded store operation uploads (kind, row.pk) = uploads (kind, row.pk) := by
  by_cases succeeds : operation.Succeeds store
  · cases entered : operation.uploaded store uploads with
    | none => rw [Store.enter_of_none entered]
    | some entry =>
        rw [Store.enter_of_some succeeds entered]
        apply Function.update_of_ne
        intro same
        cases operation with
        | createAttachment other input today =>
            cases entered
            obtain ⟨rfl, key⟩ := Prod.mk.inj same
            have less := Table.pk_lt_next_pk _ old
            exact absurd key (ne_of_lt less)
        | _ => cases entered
  · rw [Store.enter_of_failure succeeds]

/-- A file is written among the images or at a place that is free. -/
theorem place_of_written (wellNamed : operation.IsWellNamed) {file : String × Bytes}
    (asked : file ∈ operation.file store) :
    (MediaPath.ofText file.1).IsOfImage ∨ store.media.has file.1 = false := by
  cases operation with
  | createCompany changes image =>
      obtain ⟨picture, _, rfl⟩ := Option.map_eq_some_iff.1 asked
      exact .inl (CompanyImage.is_of_image _ _)
  | updateCompany pk changes image =>
      obtain ⟨picture, _, rfl⟩ := Option.map_eq_some_iff.1 asked
      exact .inl (CompanyImage.is_of_image _ _)
  | createAttachment kind input today =>
      obtain ⟨uploaded, given, rfl⟩ := Option.map_eq_some_iff.1 asked
      exact .inr (AttachmentOwner.holds_free_path _ (wellNamed uploaded given) _).2
  | _ => cases asked

/-- A file is removed from among the images or with the attachment that has it. -/
theorem place_of_removed (places : store.database.HasPlaces) {path : String}
    (gone : path ∈ operation.abandoned store) :
    (MediaPath.ofText path).IsOfImage ∨ ∃ kind pk row, operation = .deleteAttachment kind pk ∧
      (store.database.attachments kind).find? pk = some row ∧ path ∈ row.path := by
  have image {pk : Int} {company : Company}
      (found : store.database.companies.find? pk = some company)
      (shown : path ∈ company.image) : (MediaPath.ofText path).IsOfImage := by
    have member := Table.mem_of_find found
    obtain ⟨format, rfl⟩ := places.images company member path shown
    exact CompanyImage.is_of_image _ _
  cases operation with
  | updateCompany pk changes picture =>
      obtain ⟨company, found, left⟩ := Option.bind_eq_some_iff.1 gone
      split at left
      · cases left
      · exact .inl (image found left)
  | deleteCompany pk =>
      obtain ⟨company, found, left⟩ := Option.bind_eq_some_iff.1 gone
      exact .inl (image found left)
  | deleteAttachment kind pk =>
      obtain ⟨row, found, stored⟩ := Option.bind_eq_some_iff.1 gone
      exact .inr ⟨kind, pk, row, rfl, found, stored⟩
  | _ => cases gone

/-- An attachment that is deleted is not there any more. -/
theorem pk_ne_of_remaining {kind : AttachmentKind} {pk : Int}
    (makes : (deleteAttachment kind pk).Makes store changes) {row : Attachment}
    (member : row ∈ ((Change.applyAll store.database changes).attachments kind).rows) :
    row.pk ≠ pk := by
  cases makes with
  | deleteAttachment present =>
      change row ∈ ((store.database.setAttachments kind _).attachments kind).rows at member
      rw [Database.attachments_set_attachments, if_pos rfl] at member
      exact ((Table.mem_erase _ _ _).1 member).2

end Operation

namespace Store.HoldsUploads

variable {store : Store} {operation : Operation}
  {uploads : AttachmentKind × Int → Option UploadedFile}

theorem empty_holds_uploads : empty.HoldsUploads fun _ => none := by
  have blank (kind : AttachmentKind) : (empty.database.attachments kind).rows = [] := by
    cases kind <;> rfl
  constructor <;> simp [blank]

/-- The file of an attachment is there. -/
theorem read_held (holds : store.HoldsUploads uploads) {kind : AttachmentKind} {row : Attachment}
    (member : row ∈ (store.database.attachments kind).rows) {path : String}
    (stored : path ∈ row.path) :
    ∃ file ∈ uploads (kind, row.pk),
      store.media.read? (MediaPath.ofText path) = some file.content := by
  have held := holds.held kind row member
  rw [show row.path = some path from stored] at held
  obtain ⟨file, noted, content⟩ := Option.map_eq_some_iff.1 held.symm
  exact ⟨file, noted, content.symm⟩

/-- Where nothing stands, no attachment has its file. -/
theorem free_is_apart (holds : store.HoldsUploads uploads) {free : String}
    (nothing : store.media.has free = false) {kind : AttachmentKind} {row : Attachment}
    (member : row ∈ (store.database.attachments kind).rows) {path : String}
    (stored : path ∈ row.path) : MediaPath.ofText path ≠ MediaPath.ofText free := by
  intro same
  obtain ⟨file, _, reads⟩ := holds.read_held member stored
  rw [same, MediaTree.read_of_free nothing] at reads
  cases reads

section Run

variable (holds : store.HoldsUploads uploads) (sound : store.database.IsSound)
  (wellNamed : operation.IsWellNamed) (places : store.database.HasPlaces)

include holds sound wellNamed places

/-- The file of an attachment that stays is neither written nor removed. -/
theorem read_stays {changes : List Change} (makes : operation.Makes store changes)
    {kind : AttachmentKind} {row : Attachment}
    (before : row ∈ (store.database.attachments kind).rows)
    (after : row ∈ ((Change.applyAll store.database changes).attachments kind).rows)
    {path : String} (stored : path ∈ row.path) :
    (operation.run store).2.media.read? (MediaPath.ofText path) =
      store.media.read? (MediaPath.ofText path) := by
  have elsewhere := (places.attachments kind row before path stored).not_of_image
  apply Operation.read_of_untouched sound
  · intro file asked same
    rcases Operation.place_of_written wellNamed asked with image | free
    · rw [same] at image
      exact elsewhere image
    · exact holds.free_is_apart free before stored same.symm
  · intro gone left same
    rcases Operation.place_of_removed places left with image | ⟨other, pk, deleted, rfl, found, had⟩
    · rw [same] at image
      exact elsewhere image
    · obtain ⟨member, rfl⟩ := (Table.find_eq_some_iff _ _ _).1 found
      obtain ⟨rfl, rfl⟩ := holds.apart kind row before path stored other deleted member gone had
        same.symm
      exact Operation.pk_ne_of_remaining makes after rfl

theorem run_of_success (succeeds : operation.Succeeds store) :
    (operation.run store).2.HoldsUploads (enter Operation.uploaded store operation uploads) := by
  obtain ⟨changes, makes, allowed, result⟩ := changes_of_success sound succeeds
  constructor
  · intro kind row member
    rw [result] at member
    rcases Operation.attachment_origin makes member with old | new
    · rw [Operation.uploads_of_old old, ← holds.held kind row old]
      apply Option.map_congr
      intro path stored
      exact holds.read_stays sound wellNamed places makes old member stored
    · exact new.read_new sound succeeds
  · intro kind row member path stored otherKind other otherMember otherPath otherStored same
    rw [result] at member otherMember
    rcases Operation.attachment_origin makes member with old | new
    · rcases Operation.attachment_origin makes otherMember with otherOld | otherNew
      · exact holds.apart kind row old path stored otherKind other otherOld otherPath otherStored
          same
      · have free := otherNew.free wellNamed otherStored
        exact absurd same (holds.free_is_apart free old stored)
    · rcases Operation.attachment_origin makes otherMember with otherOld | otherNew
      · have free := new.free wellNamed stored
        exact absurd same.symm (holds.free_is_apart free otherOld otherStored)
      · exact new.unique otherNew

/-- Every operation leaves the attachments that stay with the files that were uploaded. -/
theorem run_holds_uploads :
    (operation.run store).2.HoldsUploads (enter Operation.uploaded store operation uploads) := by
  by_cases succeeds : operation.Succeeds store
  · exact holds.run_of_success sound wellNamed places succeeds
  · have same := database_of_failure sound succeeds
    rw [enter_of_failure succeeds]
    constructor
    · intro kind row member
      rw [same] at member
      simp only [Operation.read_of_failure sound succeeds]
      exact holds.held kind row member
    · rw [same]
      exact holds.apart

end Run

end Store.HoldsUploads

namespace Store

theorem holds_uploads_after (operations : List Operation)
    (wellNamed : ∀ operation ∈ operations, operation.IsWellNamed) :
    (empty.after operations).HoldsUploads (uploads operations) :=
  journal_keeps HoldsUploads.empty_holds_uploads HoldsUploads.run_holds_uploads operations wellNamed

/-- After every run, no two attachments of whatever kind and owner lead to one place, and where an
attachment leads there is a file with the content that was uploaded when the attachment was made. An
attachment leads nowhere only if nothing was uploaded with it. Requests see to it that attached
files have proper names. -/
theorem attached_files_in_every_run (operations : List Operation)
    (wellNamed : ∀ operation ∈ operations, operation.IsWellNamed) :
    let store := empty.after operations
    (∀ kind, ∀ row ∈ (store.database.attachments kind).rows, ∀ path ∈ row.path,
      ∀ otherKind, ∀ other ∈ (store.database.attachments otherKind).rows,
        ∀ otherPath ∈ other.path, MediaPath.ofText path = MediaPath.ofText otherPath →
          kind = otherKind ∧ row = other) ∧
      ∀ kind, ∀ row ∈ (store.database.attachments kind).rows,
        (row.path = none ↔ uploads operations (kind, row.pk) = none) ∧
        ∀ path ∈ row.path, ∃ file ∈ uploads operations (kind, row.pk),
          store.media.read? (MediaPath.ofText path) = some file.content := by
  intro store
  have holds := holds_uploads_after operations wellNamed
  refine ⟨holds.apart, ?_⟩
  intro kind row member
  refine ⟨?_, fun path stored => holds.read_held member stored⟩
  have held := holds.held kind row member
  rw [← Option.map_eq_none_iff, held, Option.map_eq_none_iff]

end Store

/-! ## Files of equal names -/

namespace SmallCatalogue

def upload (kind : AttachmentKind) (content : Bytes) : Operation :=
  .createAttachment kind ⟨1, "", "", some ⟨"terms.txt", content⟩⟩ ⟨2023, 11, 14⟩

/-- The third file takes the place of the first one, which is gone by then. -/
def attachedRun : List Operation :=
  setUp ++ [upload .company [1], upload .company [2], .deleteAttachment .company 1,
    upload .company [3], upload .manufacturerPart [4]]

theorem upload_is_well_named (kind : AttachmentKind) (content : Bytes) :
    (upload kind content).IsWellNamed := by
  intro file given
  obtain rfl := Option.mem_some_iff.1 given
  exact (by decide : Attachment.isFileName "terms.txt" = true)

theorem attached_run_is_well_named : ∀ operation ∈ attachedRun, operation.IsWellNamed := by
  intro operation member
  simp only [attachedRun, setUp, List.cons_append, List.nil_append, List.mem_cons,
    List.not_mem_nil, or_false] at member
  rcases member with rfl | rfl | rfl | rfl | rfl | rfl | rfl | rfl | rfl | rfl
  all_goals first | trivial | exact upload_is_well_named _ _

theorem second_upload :
    Store.uploads attachedRun (.company, 2) = some ⟨"terms.txt", [2]⟩ := by decide +kernel

theorem second_attachment :
    ∃ row ∈ ((Store.empty.after attachedRun).database.attachments .company).rows,
      row.pk = 2 ∧ row.path = some "attachments/company_files/1/terms_1.txt" := by
  decide +kernel

end SmallCatalogue

open SmallCatalogue in
theorem second_file_is_kept :
    (∀ operation ∈ attachedRun, operation.IsWellNamed) ∧
      (Store.empty.after attachedRun).media.read?
        (MediaPath.ofText "attachments/company_files/1/terms_1.txt") = some [2] := by
  obtain ⟨_, files⟩ := Store.attached_files_in_every_run attachedRun attached_run_is_well_named
  obtain ⟨row, member, key, stored⟩ := second_attachment
  obtain ⟨file, uploaded, reads⟩ := (files .company row member).2 _ stored
  rw [key, second_upload] at uploaded
  rw [← Option.mem_some_iff.1 uploaded] at reads
  exact ⟨attached_run_is_well_named, reads⟩

end SupplyCatalog
