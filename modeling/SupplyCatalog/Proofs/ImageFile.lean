import SupplyCatalog.Proofs.Journal

/-!
# Images of companies

The directory of the images holds what was saved last with each company, and nothing else. A run is
compared with a journal that knows nothing of paths and files: for every key the image that was
saved last, until it is dropped or the company goes. An image of another format lies at another
path, so the file before it must go; one of the same format is written over it and must stay.
-/

namespace SupplyCatalog

/-! ## The journal of images -/

/-- The company whose image an operation settles, and the image that it has from then on. -/
def Operation.settled (store : Store) (operation : Operation)
    (last : Int → Option CompanyImage) : Option (Int × Option CompanyImage) :=
  match operation with
  | createCompany _ image => some (store.database.companies.nextPk, image)
  | updateCompany pk changes image =>
      some (pk, image.or (if changes.clearImage then none else last pk))
  | deleteCompany pk => some (pk, none)
  | _ => none

/-- The image that was saved last with each company of a run. -/
def Store.lastImages (operations : List Operation) : Int → Option CompanyImage :=
  journal (enter Operation.settled) (fun _ => none) operations

def CompanyImage.kept (pk : Int) (image : CompanyImage) : String := path pk image.format

/-- Rows and files show the images of a journal, and there are no other images. -/
structure Store.ShowsImages (store : Store) (last : Int → Option CompanyImage) : Prop where
  absent : ∀ pk, store.database.companies.contains pk = false → last pk = none
  rows : ∀ company ∈ store.database.companies.rows,
    company.image = (last company.pk).map (CompanyImage.kept company.pk)
  files : ∀ pk format content,
    store.media.read? (MediaPath.ofText (CompanyImage.path pk format)) = some content ↔
      ∃ image ∈ last pk, image.format = format ∧ image.bytes = content
  named : ∀ place : MediaPath, place.IsOfImage → store.media.isFile place = true →
    ∃ pk format, place = MediaPath.ofText (CompanyImage.path pk format)

namespace Operation

variable {store : Store} {operation : Operation} {last : Int → Option CompanyImage}

/-! ## Files of one company -/

/-- The image that a company had is left for the one that it has from now on. -/
structure Settles (store : Store) (operation : Operation) (pk : Int)
    (old new : Option CompanyImage) : Prop where
  written : operation.file store = new.map (CompanyImage.file pk) ∨
    operation.file store = none ∧ new = old
  removed : operation.abandoned store =
    if new.map (CompanyImage.kept pk) = old.map (CompanyImage.kept pk) then none
    else old.map (CompanyImage.kept pk)

namespace Settles

variable {pk : Int} {old new : Option CompanyImage}
  (settles : operation.Settles store pk old new)

include settles

/-- Only places of the company are written. -/
theorem mem_written {file : String × Bytes} (asked : file ∈ operation.file store) :
    ∃ image ∈ new, file = CompanyImage.file pk image := by
  rcases settles.written with written | ⟨unwritten, _⟩
  · rw [written] at asked
    obtain ⟨image, member, rfl⟩ := Option.map_eq_some_iff.1 asked
    exact ⟨image, member, rfl⟩
  · rw [unwritten] at asked
    cases asked

/-- Only the place of the image before is cleared, and only if that is not the place of the image
from now on. -/
theorem mem_removed {path : String} (gone : path ∈ operation.abandoned store) :
    ∃ image ∈ old, path = CompanyImage.kept pk image ∧
      ∀ other ∈ new, other.format ≠ image.format := by
  rw [settles.removed] at gone
  split at gone
  · cases gone
  · rename_i different
    obtain ⟨image, member, rfl⟩ := Option.map_eq_some_iff.1 gone
    refine ⟨image, member, rfl, ?_⟩
    intro other kept same
    apply different
    rw [show old = some image from member, show new = some other from kept]
    simp only [Option.map_some, CompanyImage.kept, same]

theorem read_other {place : MediaPath} (sound : store.database.IsSound)
    (other : ∀ format, place ≠ MediaPath.ofText (CompanyImage.path pk format)) :
    (operation.run store).2.media.read? place = store.media.read? place := by
  apply read_of_untouched sound
  · intro file asked same
    obtain ⟨image, _, rfl⟩ := settles.mem_written asked
    exact other image.format same.symm
  · intro path gone same
    obtain ⟨image, _, rfl, _⟩ := settles.mem_removed gone
    exact other image.format same.symm

section Own

variable (sound : store.database.IsSound) (succeeds : operation.Succeeds store)
  (before : ∀ format content,
    store.media.read? (MediaPath.ofText (CompanyImage.path pk format)) = some content ↔
      ∃ image ∈ old, image.format = format ∧ image.bytes = content)

include sound succeeds before

theorem read_kept {image : CompanyImage} (member : image ∈ new) :
    (operation.run store).2.media.read? (MediaPath.ofText (CompanyImage.path pk image.format)) =
      some image.bytes := by
  have unremoved : ∀ gone ∈ operation.abandoned store, MediaPath.ofText gone ≠
      MediaPath.ofText (CompanyImage.path pk image.format) := by
    intro gone left same
    obtain ⟨previous, _, rfl, different⟩ := settles.mem_removed left
    exact different image member (CompanyImage.place_injective same).2.symm
  rcases settles.written with written | ⟨unwritten, same⟩
  · rw [show new = some image from member] at written
    exact read_of_written sound succeeds written unremoved
  · subst same
    rw [read_of_untouched sound (by simp [unwritten]) unremoved]
    exact (before _ _).2 ⟨image, member, rfl, rfl⟩

theorem read_dropped {format : ImageFormat} (dropped : ∀ image ∈ new, image.format ≠ format) :
    (operation.run store).2.media.read? (MediaPath.ofText (CompanyImage.path pk format)) =
      none := by
  by_cases left : ∃ image ∈ old, image.format = format
  · obtain ⟨image, member, rfl⟩ := left
    have gone : operation.abandoned store = some (CompanyImage.kept pk image) := by
      rw [settles.removed, show old = some image from member, if_neg]
      · rfl
      · intro same
        obtain ⟨other, stays, paths⟩ := Option.map_eq_some_iff.1 same
        have places := congrArg MediaPath.ofText paths
        exact dropped other stays (CompanyImage.place_injective places).2
    exact read_of_abandoned sound succeeds gone
  · have untouched : (operation.run store).2.media.read?
        (MediaPath.ofText (CompanyImage.path pk format)) =
          store.media.read? (MediaPath.ofText (CompanyImage.path pk format)) := by
      apply read_of_untouched sound
      · intro file asked same
        obtain ⟨image, member, rfl⟩ := settles.mem_written asked
        exact dropped image member (CompanyImage.place_injective same).2
      · intro path gone same
        obtain ⟨image, member, rfl, _⟩ := settles.mem_removed gone
        exact left ⟨image, member, (CompanyImage.place_injective same).2⟩
    rw [untouched, Option.eq_none_iff_forall_ne_some]
    intro content shown
    obtain ⟨image, member, same, _⟩ := (before _ _).1 shown
    exact left ⟨image, member, same⟩

theorem read_own (format : ImageFormat) (content : Bytes) :
    (operation.run store).2.media.read? (MediaPath.ofText (CompanyImage.path pk format)) =
        some content ↔
      ∃ image ∈ new, image.format = format ∧ image.bytes = content := by
  constructor
  · intro reads
    by_cases kept : ∃ image ∈ new, image.format = format
    · obtain ⟨image, member, rfl⟩ := kept
      rw [settles.read_kept sound succeeds before member] at reads
      exact ⟨image, member, rfl, Option.some_inj.1 reads⟩
    · have dropped : ∀ image ∈ new, image.format ≠ format :=
        fun image member same => kept ⟨image, member, same⟩
      rw [settles.read_dropped sound succeeds before dropped] at reads
      cases reads
  · rintro ⟨image, member, rfl, rfl⟩
    exact settles.read_kept sound succeeds before member

end Own

end Settles

/-- What an update does to the path of a company's image, said with the images themselves. -/
theorem image_after_eq {company : Company}
    (shown : company.image = (last company.pk).map (CompanyImage.kept company.pk))
    (changes : CompanyChanges) (image : Option CompanyImage) :
    (company.changed changes image).image =
      (image.or (if changes.clearImage then none else last company.pk)).map
        (CompanyImage.kept company.pk) := by
  simp only [Company.changed, Company.imageAfter]
  cases image with
  | some picture => rfl
  | none =>
      cases changes.clearImage with
      | true => rfl
      | false => exact shown

/-- An operation that succeeds settles an image as the journal notes it. -/
theorem settles_of_settled (shows : store.ShowsImages last) {changes : List Change}
    (makes : operation.Makes store changes) {pk : Int} {new : Option CompanyImage}
    (settled : operation.settled store last = some (pk, new)) :
    operation.Settles store pk (last pk) new := by
  cases makes with
  | createCompany changes image =>
      cases settled
      have fresh : store.database.companies.contains store.database.companies.nextPk = false := by
        rw [Bool.eq_false_iff]
        intro present
        exact absurd (Table.lt_next_pk_of_contains present) (lt_irrefl _)
      exact ⟨.inl rfl, by simp [shows.absent _ fresh, abandoned]⟩
  | @updateCompany pk company found changes image =>
      cases settled
      obtain ⟨member, rfl⟩ := (Table.find_eq_some_iff _ _ _).1 found
      have shown := shows.rows company member
      refine ⟨?_, ?_⟩
      · cases image with
        | some picture => exact .inl rfl
        | none =>
            cases clear : changes.clearImage with
            | true => exact .inl rfl
            | false => exact .inr ⟨rfl, rfl⟩
      · rw [abandoned, found, Option.bind_some, image_after_eq shown]
        rw [shown]
        rfl
  | @deleteCompany pk present =>
      cases settled
      obtain ⟨company, found⟩ := (Table.contains_iff_find _ _).1 present
      obtain ⟨member, rfl⟩ := (Table.find_eq_some_iff _ _ _).1 found
      have shown := shows.rows company member
      refine ⟨.inl rfl, ?_⟩
      rw [abandoned, found, Option.bind_some, shown]
      change Option.map _ (last company.pk) = if none = Option.map _ (last company.pk) then _ else _
      cases last company.pk <;> rfl
  | _ => cases settled

/-! ## Operations that settle no image -/

theorem companies_of_unsettled {changes : List Change} (makes : operation.Makes store changes)
    (unsettled : operation.settled store last = none) :
    (Change.applyAll store.database changes).companies = store.database.companies := by
  cases makes with
  | createCompany changes image => cases unsettled
  | updateCompany found changes image => cases unsettled
  | deleteCompany present => cases unsettled
  | createSupplierPart creates => cases creates <;> rfl
  | createAttachment kind input today => exact Database.companies_set_attachments _ _ _
  | deleteAttachment present => exact Database.companies_set_attachments _ _ _
  | _ => rfl

/-- Attached files lie elsewhere. -/
theorem read_image_of_unsettled (sound : store.database.IsSound)
    (wellNamed : operation.IsWellNamed) (places : store.database.HasPlaces)
    (unsettled : operation.settled store last = none) {place : MediaPath}
    (image : place.IsOfImage) :
    (operation.run store).2.media.read? place = store.media.read? place := by
  apply read_of_untouched sound
  · intro file asked same
    subst same
    cases operation with
    | createCompany changes image => cases unsettled
    | updateCompany pk changes image => cases unsettled
    | createAttachment kind input today =>
        obtain ⟨uploaded, given, rfl⟩ := Option.map_eq_some_iff.1 asked
        have holds := AttachmentOwner.holds_free_path (kind.owner input.owner)
          (wellNamed uploaded given) store.media
        exact holds.1.not_of_image image
    | _ => cases asked
  · intro path gone same
    subst same
    cases operation with
    | updateCompany pk changes image => cases unsettled
    | deleteCompany pk => cases unsettled
    | deleteAttachment kind pk =>
        obtain ⟨row, found, stored⟩ := Option.bind_eq_some_iff.1 gone
        have member := Table.mem_of_find found
        exact (places.attachments kind row member path stored).not_of_image image
    | _ => cases gone

end Operation

/-! ## Rows and files together -/

namespace Store.ShowsImages

variable {store : Store} {operation : Operation} {last : Int → Option CompanyImage}

theorem empty_shows_images : empty.ShowsImages fun _ => none := by
  constructor
  · intro pk absent
    rfl
  · intro company member
    cases member
  · intro pk format content
    simp [empty, MediaTree.empty, MediaTree.read?]
  · intro place image file
    cases file

/-- The row of one company is written or goes, and its image is settled. -/
theorem settle (shows : store.ShowsImages last) (sound : store.database.IsSound)
    (succeeds : operation.Succeeds store) {pk : Int} {new : Option CompanyImage}
    (settles : operation.Settles store pk (last pk) new) (written : Option Company)
    (rows : ∀ company, company ∈ (operation.run store).2.database.companies.rows ↔
      company ∈ store.database.companies.rows ∧ company.pk ≠ pk ∨ company ∈ written)
    (shown : ∀ company ∈ written,
      company.pk = pk ∧ company.image = new.map (CompanyImage.kept pk))
    (gone : written = none → new = none) :
    (operation.run store).2.ShowsImages (Function.update last pk new) where
  absent other missing := by
    by_cases own : other = pk
    · subst own
      rw [Function.update_self]
      apply gone
      rw [Option.eq_none_iff_forall_ne_some]
      intro company new
      have present := Table.contains_of_mem _ ((rows company).2 (.inr new))
      rw [show Keyed.pk company = other from (shown company new).1, missing] at present
      cases present
    · rw [Function.update_of_ne own]
      apply shows.absent
      rw [Bool.eq_false_iff]
      intro present
      obtain ⟨company, old, rfl⟩ := (Table.contains_iff _ _).1 present
      have stays := Table.contains_of_mem _ ((rows company).2 (.inl ⟨old, own⟩))
      rw [missing] at stays
      cases stays
  rows company member := by
    rcases (rows company).1 member with ⟨old, different⟩ | new
    · rw [Function.update_of_ne different]
      exact shows.rows company old
    · obtain ⟨rfl, image⟩ := shown company new
      rw [Function.update_self]
      exact image
  files other format content := by
    by_cases own : other = pk
    · subst own
      rw [Function.update_self]
      exact settles.read_own sound succeeds (shows.files other) format content
    · rw [Function.update_of_ne own, settles.read_other sound]
      · exact shows.files other format content
      · intro otherFormat same
        exact own (CompanyImage.place_injective same).1
  named place image file := by
    by_cases own : ∃ format, place = MediaPath.ofText (CompanyImage.path pk format)
    · obtain ⟨format, same⟩ := own
      exact ⟨pk, format, same⟩
    · unfold MediaTree.isFile at file
      rw [settles.read_other sound fun format same => own ⟨format, same⟩] at file
      exact shows.named place image file

/-- Neither companies nor images are touched. -/
theorem untouched (shows : store.ShowsImages last) {after : Store}
    (companies : after.database.companies = store.database.companies)
    (same : ∀ place : MediaPath, place.IsOfImage →
      after.media.read? place = store.media.read? place) : after.ShowsImages last where
  absent pk missing := by
    rw [companies] at missing
    exact shows.absent pk missing
  rows company member := by
    rw [companies] at member
    exact shows.rows company member
  files pk format content := by
    rw [same _ (CompanyImage.is_of_image pk format)]
    exact shows.files pk format content
  named place image file := by
    unfold MediaTree.isFile at file
    rw [same place image] at file
    exact shows.named place image file

/-- The row of a company is written with the path of its image. -/
theorem settle_written (shows : store.ShowsImages last) (sound : store.database.IsSound)
    (succeeds : operation.Succeeds store) {pk : Int} {new : Option CompanyImage}
    (settles : operation.Settles store pk (last pk) new) (write : Write Company)
    (place : write.HasPlace store.database.companies)
    (result : (operation.run store).2.database.companies = write.apply store.database.companies)
    (own : (write.result store.database.companies).pk = pk)
    (image : (write.result store.database.companies).image =
      new.map (CompanyImage.kept pk)) :
    (operation.run store).2.ShowsImages (Function.update last pk new) := by
  apply shows.settle sound succeeds settles (some (write.result store.database.companies))
  · intro company
    rw [result, ← own, Option.mem_some_iff, eq_comm]
    exact Write.mem_apply place company
  · intro company written
    rw [← Option.mem_some_iff.1 written]
    exact ⟨own, image⟩
  · intro none
    cases none

theorem settle_made (shows : store.ShowsImages last) (sound : store.database.IsSound)
    (succeeds : operation.Succeeds store) {pk : Int} {new : Option CompanyImage}
    (settled : operation.settled store last = some (pk, new)) :
    (operation.run store).2.ShowsImages (Function.update last pk new) := by
  obtain ⟨changes, makes, allowed, result⟩ := changes_of_success sound succeeds
  have settles := Operation.settles_of_settled shows makes settled
  have companies := congrArg Database.companies result
  cases makes with
  | createCompany changes image =>
      cases settled
      have paths := Option.map_map Prod.fst
        (CompanyImage.file store.database.companies.nextPk) new
      exact shows.settle_written sound succeeds settles _ allowed.1.1 companies rfl paths
  | @updateCompany pk company found changes image =>
      cases settled
      obtain ⟨member, rfl⟩ := (Table.find_eq_some_iff _ _ _).1 found
      have paths := Operation.image_after_eq (shows.rows company member) changes image
      exact shows.settle_written sound succeeds settles _ allowed.1.1 companies rfl paths
  | deleteCompany present =>
      cases settled
      apply shows.settle sound succeeds settles none
      · intro company
        rw [companies]
        exact (Table.mem_erase _ _ company).trans (or_iff_left (Option.not_mem_none _)).symm
      · intro company written
        cases written
      · intro _
        rfl
  | _ => cases settled

/-- Every operation keeps the images as the journal has them. -/
theorem run_shows_images (shows : store.ShowsImages last) (sound : store.database.IsSound)
    (wellNamed : operation.IsWellNamed) (places : store.database.HasPlaces) :
    (operation.run store).2.ShowsImages (enter Operation.settled store operation last) := by
  by_cases succeeds : operation.Succeeds store
  · cases settled : operation.settled store last with
    | some settlement =>
        rw [enter_of_some succeeds settled]
        exact shows.settle_made sound succeeds settled
    | none =>
        rw [enter_of_none settled]
        obtain ⟨changes, makes, _, result⟩ := changes_of_success sound succeeds
        apply shows.untouched
        · rw [result]
          exact Operation.companies_of_unsettled makes settled
        · intro place image
          exact Operation.read_image_of_unsettled sound wellNamed places settled image
  · rw [enter_of_failure succeeds]
    apply shows.untouched
    · rw [database_of_failure sound succeeds]
    · intro place _
      exact Operation.read_of_failure sound succeeds place

/-- The path in a row leads to the image of the journal. -/
theorem read_shown (shows : store.ShowsImages last) {company : Company}
    (member : company ∈ store.database.companies.rows) {path : String}
    (given : path ∈ company.image) :
    ∃ image ∈ last company.pk, store.media.read? (MediaPath.ofText path) = some image.bytes := by
  rw [shows.rows company member] at given
  obtain ⟨image, saved, rfl⟩ := Option.map_eq_some_iff.1 given
  exact ⟨image, saved, (shows.files _ _ _).2 ⟨image, saved, rfl, rfl⟩⟩

theorem is_file_iff (shows : store.ShowsImages last) {place : MediaPath}
    (inside : place.IsOfImage) :
    store.media.isFile place = true ↔
      ∃ company ∈ store.database.companies.rows, ∃ path ∈ company.image,
        place = MediaPath.ofText path := by
  constructor
  · intro file
    obtain ⟨pk, format, rfl⟩ := shows.named place inside file
    obtain ⟨content, reads⟩ := Option.isSome_iff_exists.1 file
    obtain ⟨image, saved, rfl, _⟩ := (shows.files _ _ _).1 reads
    have present : store.database.companies.contains pk = true := by
      by_contra missing
      have absent := shows.absent pk (Bool.eq_false_iff.2 missing)
      rw [show last pk = some image from saved] at absent
      cases absent
    obtain ⟨company, member, rfl⟩ := (Table.contains_iff _ _).1 present
    have named : company.image = some (CompanyImage.kept company.pk image) := by
      rw [shows.rows company member, show last company.pk = some image from saved]
      rfl
    exact ⟨company, member, _, named, rfl⟩
  · rintro ⟨company, member, path, given, rfl⟩
    obtain ⟨image, _, reads⟩ := shows.read_shown member given
    unfold MediaTree.isFile
    rw [reads]
    rfl

end Store.ShowsImages

namespace Store

theorem shows_images_after (operations : List Operation)
    (wellNamed : ∀ operation ∈ operations, operation.IsWellNamed) :
    (empty.after operations).ShowsImages (lastImages operations) :=
  journal_keeps ShowsImages.empty_shows_images ShowsImages.run_shows_images operations wellNamed

/-- After every run, the files in the directory of the images are those that companies name; the
path of a company's image tells the company and the format of the image that was saved last with it,
and the file there holds the bytes of that image. A company without an image has none saved.
Requests see to it that attached files have proper names. -/
theorem images_match_rows_in_every_run (operations : List Operation)
    (wellNamed : ∀ operation ∈ operations, operation.IsWellNamed) :
    let store := empty.after operations
    (∀ place : MediaPath, ["company_images"] <+: place →
      (store.media.isFile place = true ↔
        ∃ company ∈ store.database.companies.rows, ∃ path ∈ company.image,
          place = MediaPath.ofText path)) ∧
      ∀ company ∈ store.database.companies.rows,
        (company.image = (lastImages operations company.pk).map fun image =>
          "company_images" ++ "/" ++ ("company_" ++ toString company.pk ++ "_image." ++
            (image.format?.getD .png).fileExtension)) ∧
        ∀ image ∈ lastImages operations company.pk, ∀ path ∈ company.image,
          store.media.read? (MediaPath.ofText path) = some image.bytes := by
  intro store
  have shows := shows_images_after operations wellNamed
  refine ⟨fun place inside => shows.is_file_iff inside, ?_⟩
  intro company member
  refine ⟨shows.rows company member, ?_⟩
  intro image saved path given
  obtain ⟨shown, last, reads⟩ := shows.read_shown member given
  rw [reads, Option.mem_unique last saved]

end Store

/-! ## An image that is replaced -/

namespace SmallCatalogue

def animation : CompanyImage := ⟨[0x47, 0x49, 0x46, 0x38, 0x39, 0x61, 0x00]⟩

/-- An image of no known format. -/
def drawing : CompanyImage := ⟨[1, 2, 3]⟩

/-- The last update is refused, since there is no second company. -/
def picturedRun : List Operation :=
  [.createCompany company (some animation),
    .createAttachment .company ⟨1, "", "", some ⟨"terms.txt", [7]⟩⟩ ⟨2023, 11, 14⟩,
    .updateCompany 1 { noChanges with clearImage := true } (some drawing),
    .updateCompany 2 noChanges (some animation)]

theorem pictured_run_is_well_named : ∀ operation ∈ picturedRun, operation.IsWellNamed := by
  intro operation member
  simp only [picturedRun, List.mem_cons, List.not_mem_nil, or_false] at member
  rcases member with rfl | rfl | rfl | rfl
  · trivial
  · intro file given
    obtain rfl := Option.mem_some_iff.1 given
    decide
  · trivial
  · trivial

theorem drawing_is_last : Store.lastImages picturedRun 1 = some drawing := by decide +kernel

end SmallCatalogue

open SmallCatalogue in
/-- The image that came with the wish to have none is kept, and the one before it is gone. -/
theorem replaced_image_is_shown :
    (∀ operation ∈ picturedRun, operation.IsWellNamed) ∧
      (Store.empty.after picturedRun).media.isFile
        ["company_images", "company_1_image.gif"] = false ∧
      ∃ company ∈ (Store.empty.after picturedRun).database.companies.rows,
        company.image = some "company_images/company_1_image.png" ∧
        (Store.empty.after picturedRun).media.read?
          (MediaPath.ofText "company_images/company_1_image.png") = some drawing.bytes := by
  obtain ⟨files, images⟩ :=
    Store.images_match_rows_in_every_run picturedRun pictured_run_is_well_named
  have rows : ∀ company ∈ (Store.empty.after picturedRun).database.companies.rows,
      company.pk = 1 ∧ company.image = some "company_images/company_1_image.png" := by
    decide +kernel
  have place : ["company_images", "company_1_image.gif"] ≠
      MediaPath.ofText "company_images/company_1_image.png" := by decide +kernel
  refine ⟨pictured_run_is_well_named, ?_, ?_⟩
  · rw [Bool.eq_false_iff]
    intro file
    obtain ⟨company, member, path, given, same⟩ := (files _ ⟨_, rfl⟩).1 file
    rw [(rows company member).2] at given
    exact place (same.trans (congrArg MediaPath.ofText (Option.mem_some_iff.1 given).symm))
  · have some : (Store.empty.after picturedRun).database.companies.rows ≠ [] := by
      decide +kernel
    obtain ⟨company, member⟩ := List.exists_mem_of_ne_nil _ some
    obtain ⟨key, image⟩ := rows company member
    have last : drawing ∈ Store.lastImages picturedRun company.pk := by
      rw [key]
      exact drawing_is_last
    exact ⟨company, member, image, (images company member).2 drawing last _ image⟩

end SupplyCatalog
