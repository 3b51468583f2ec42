import SupplyCatalog.Proofs.FreePath
import SupplyCatalog.Proofs.MediaFile
import SupplyCatalog.Proofs.RowOrigin

/-!
# Paths in rows

The image of a company is kept under the name that belongs to its key and a format, and an attached
file in the directory of its owner. So no path of an image leads to an attached file.
-/

namespace SupplyCatalog

/-- The path leads to a file in the directory of the owner. -/
def AttachmentOwner.Holds (owner : AttachmentOwner) (path : String) : Prop :=
  ∃ name, MediaPath.IsComponent name ∧ path = MediaPath.toText (owner.directories ++ [name])

/-- Images are kept under the names that belong to their companies. -/
def Database.HasImagePlaces (database : Database) : Prop :=
  ∀ row ∈ database.companies.rows, ∀ path ∈ row.image,
    ∃ format, path = CompanyImage.path row.pk format

structure Database.HasPlaces (database : Database) : Prop where
  images : ∀ row ∈ database.companies.rows, ∀ path ∈ row.image,
    ∃ format, path = CompanyImage.path row.pk format
  attachments : ∀ kind, ∀ row ∈ (database.attachments kind).rows, ∀ path ∈ row.path,
    row.owner.Holds path

/-! ## Places of images and of attached files -/

/-- Images and attached files are in different directories. -/
def MediaPath.IsOfImage (place : MediaPath) : Prop := [Company.imageDirectory] <+: place

/-- A place belongs to one company and one format. -/
theorem CompanyImage.place_injective {pk other : Int} {format otherFormat : ImageFormat}
    (same : MediaPath.ofText (path pk format) = MediaPath.ofText (path other otherFormat)) :
    pk = other ∧ format = otherFormat := by
  rw [of_text_path, of_text_path] at same
  exact file_name_injective (List.cons.inj (List.cons.inj same).2).1

theorem CompanyImage.is_of_image (pk : Int) (format : ImageFormat) :
    (MediaPath.ofText (path pk format)).IsOfImage := by
  rw [of_text_path]
  exact ⟨[fileName pk format], rfl⟩

namespace AttachmentOwner.Holds

variable {owner : AttachmentOwner} {path : String}

theorem of_text (holds : owner.Holds path) :
    ∃ name, MediaPath.ofText path = owner.directories ++ [name] := by
  obtain ⟨name, proper, rfl⟩ := holds
  exact ⟨name,
    MediaPath.of_text_append (fun _ member => owner.is_component_of_directory member) proper⟩

theorem not_of_image (holds : owner.Holds path) : ¬ (MediaPath.ofText path).IsOfImage := by
  obtain ⟨name, place⟩ := holds.of_text
  rw [place]
  simp [MediaPath.IsOfImage, directories, Company.imageDirectory]

end AttachmentOwner.Holds

/-- A new file goes into the directory of its owner, to a place where nothing has stood. -/
theorem AttachmentOwner.holds_free_path (owner : AttachmentOwner) {name : String}
    (fits : Attachment.isFileName name = true) (tree : MediaTree) :
    owner.Holds (tree.freePath (owner.storagePath name)) ∧
      tree.has (tree.freePath (owner.storagePath name)) = false := by
  have some : owner.directories ≠ [] := by simp [directories]
  have proper := is_component_of_file_name fits
  rw [owner.storage_path_eq]
  exact ⟨tree.free_path_to_text owner.directories some proper,
    MediaTree.has_free_path some (fun _ member => owner.is_component_of_directory member)
      proper tree⟩

theorem MediaTree.read_of_free {tree : MediaTree} {path : String} (free : tree.has path = false) :
    tree.read? (MediaPath.ofText path) = none := by
  simp only [has, hasEntry, isFile, Bool.or_eq_false_iff, Option.isSome_eq_false_iff,
    Option.isNone_iff_eq_none] at free
  exact free.1

/-! ## Changes and operations -/

def Change.HasImagePlace (database : Database) : Change → Prop
  | writeCompany write => ∀ path ∈ (write.result database.companies).image,
      ∃ format, path = CompanyImage.path (write.result database.companies).pk format
  | _ => True

def Change.HasFilePlace : Change → Prop
  | addAttachment row => ∀ path ∈ row.path, row.owner.Holds path
  | _ => True

namespace Database

variable {before : Database} {change : Change}

theorem empty_has_places : empty.HasPlaces := by
  constructor <;> simp [empty, attachments, Table.empty]
  rintro ⟨⟩ <;> simp

theorem HasImagePlaces.apply (places : before.HasImagePlaces) (allowed : change.IsAllowed before)
    (placed : change.HasImagePlace before) : (change.apply before).HasImagePlaces := by
  intro row member
  rcases Change.company_origin allowed member with old | ⟨write, rfl, rfl⟩
  · exact places row old
  · exact placed

theorem attachments_apply_all {changes : List Change}
    (placed : ∀ kind, ∀ row ∈ (before.attachments kind).rows, ∀ path ∈ row.path,
      row.owner.Holds path)
    (filed : ∀ change ∈ changes, change.HasFilePlace) (kind : AttachmentKind) :
    ∀ row ∈ ((Change.applyAll before changes).attachments kind).rows, ∀ path ∈ row.path,
      row.owner.Holds path := by
  induction changes generalizing before with
  | nil => exact placed kind
  | cons change rest induction =>
      have first := filed change List.mem_cons_self
      refine induction ?_ fun other member => filed other (List.mem_cons_of_mem _ member)
      intro other row member
      rcases Change.attachment_origin member with old | ⟨new, rfl, _, rfl⟩
      · exact placed other row old
      · exact first

end Database

namespace Operation

variable {store : Store} {operation : Operation}

/-- An update leaves the image where it is, drops it, or brings a new one. -/
theorem placed_image_after {company : Company}
    (placed : ∀ path ∈ company.image, ∃ format, path = CompanyImage.path company.pk format)
    (changes : CompanyChanges) (image : Option CompanyImage) :
    ∀ path ∈ company.imageAfter changes image,
      ∃ format, path = CompanyImage.path company.pk format := by
  intro path given
  unfold Company.imageAfter at given
  cases image with
  | some picture =>
      cases given
      exact ⟨picture.format, rfl⟩
  | none =>
      dsimp only at given
      split at given
      · cases given
      · exact placed path given

/-- All changes that an operation makes have the images of companies where they belong. -/
theorem run_has_image_places (sound : store.database.IsSound)
    (places : store.database.HasImagePlaces) :
    (operation.run store).2.database.HasImagePlaces := by
  by_cases succeeds : operation.Succeeds store
  · obtain ⟨changes, makes, allowed, result⟩ := Store.changes_of_success sound succeeds
    rw [result]
    cases makes with
    | createCompany changes image =>
        apply places.apply allowed.1
        intro path given
        obtain ⟨file, kept, rfl⟩ := Option.map_eq_some_iff.1 given
        obtain ⟨picture, _, rfl⟩ := Option.map_eq_some_iff.1 kept
        exact ⟨picture.format, rfl⟩
    | updateCompany found changes image =>
        rename_i pk company
        apply places.apply allowed.1
        have member := Table.mem_of_find found
        exact placed_image_after (places company member) changes image
    | createSupplierPart creates =>
        cases creates with
        | unlinked none => exact places.apply allowed.1 trivial
        | found link target given found => exact places.apply allowed.1 trivial
        | made link given none => exact (places.apply allowed.1 trivial).apply allowed.2.1 trivial
    | _ => exact places.apply allowed.1 trivial
  · rw [Store.database_of_failure sound succeeds]
    exact places

theorem Makes.files_placed {changes : List Change} (makes : operation.Makes store changes)
    (wellNamed : operation.IsWellNamed) : ∀ change ∈ changes, change.HasFilePlace := by
  cases makes with
  | createAttachment kind input today =>
      intro change member
      obtain rfl := List.mem_singleton.1 member
      intro path given
      obtain ⟨file, kept, rfl⟩ := Option.map_eq_some_iff.1 given
      obtain ⟨uploaded, asked, rfl⟩ := Option.map_eq_some_iff.1 kept
      exact (AttachmentOwner.holds_free_path _ (wellNamed uploaded asked) _).1
  | createSupplierPart creates => cases creates <;> simp [Change.HasFilePlace]
  | _ => simp [Change.HasFilePlace]

theorem run_has_places (sound : store.database.IsSound) (wellNamed : operation.IsWellNamed)
    (places : store.database.HasPlaces) : (operation.run store).2.database.HasPlaces := by
  refine ⟨run_has_image_places sound places.images, ?_⟩
  by_cases succeeds : operation.Succeeds store
  · obtain ⟨changes, makes, _, result⟩ := Store.changes_of_success sound succeeds
    rw [result]
    exact Database.attachments_apply_all places.attachments (makes.files_placed wellNamed)
  · rw [Store.database_of_failure sound succeeds]
    exact places.attachments

end Operation

theorem Store.has_image_places_after (operations : List Operation) :
    (empty.after operations).database.HasImagePlaces := by
  induction operations using List.reverseRecOn with
  | nil => exact Database.empty_has_places.images
  | append_singleton before operation induction =>
      rw [after_append]
      exact Operation.run_has_image_places (reachable_is_sound before) induction

theorem Store.has_places_after (operations : List Operation)
    (wellNamed : ∀ operation ∈ operations, operation.IsWellNamed) :
    (empty.after operations).database.HasPlaces := by
  induction operations using List.reverseRecOn with
  | nil => exact Database.empty_has_places
  | append_singleton before operation induction =>
      have earlier := induction fun other member => wellNamed other (List.mem_append_left _ member)
      have named := wellNamed operation (List.mem_append_right _ List.mem_cons_self)
      rw [after_append]
      exact Operation.run_has_places (reachable_is_sound before) named earlier

end SupplyCatalog
