import Mathlib.Data.List.TakeWhile
import SupplyCatalog.Proofs.MediaPath
import SupplyCatalog.Proofs.Run

/-!
# The layout of the media files

Images lie in one directory, and attached files in one directory for each owner. So no file stands
where a directory has to be and no directory where a file has to be, and a file is written wherever
its name is not too long for a file system. Every operation keeps this layout.
-/

namespace SupplyCatalog

/-- The directories in which a file lies, from the root downward. -/
def MediaPath.around (path : MediaPath) : List MediaPath :=
  ancestors path.dropLast ++ [path.dropLast]

/-- Where files lie. -/
def MediaPath.IsPlace (path : MediaPath) : Prop :=
  (∃ name, path = [Company.imageDirectory, name]) ∨
    ∃ kind owner name, path = ["attachments", kind, owner, name]

namespace MediaPath.IsPlace

variable {path : MediaPath} (place : path.IsPlace)

include place

theorem around_eq : path.around = path.ancestors := by
  rcases place with ⟨name, rfl⟩ | ⟨kind, owner, name, rfl⟩
  · rfl
  · rfl

theorem not_empty : path ≠ [] := by
  rcases place with ⟨name, rfl⟩ | ⟨kind, owner, name, rfl⟩
  · exact List.cons_ne_nil _ _
  · exact List.cons_ne_nil _ _

/-- No file lies on the way to another one. -/
theorem not_on_the_way {directory : MediaPath} (above : directory ∈ path.ancestors) :
    ¬ directory.IsPlace := by
  have different : "attachments" ≠ Company.imageDirectory := by decide
  rcases place with ⟨name, rfl⟩ | ⟨kind, owner, name, rfl⟩
  · obtain rfl : directory = [Company.imageDirectory] := by simpa [ancestors] using above
    simp [IsPlace]
  · have shape : directory = ["attachments"] ∨ directory = ["attachments", kind] ∨
        directory = ["attachments", kind, owner] := by
      simpa [ancestors] using above
    rcases shape with rfl | rfl | rfl <;> simp [IsPlace, different]

end MediaPath.IsPlace

namespace MediaTree

variable {tree after : MediaTree} {path : MediaPath} {content : Bytes}

/-! ## Writing a file -/

/-- Making a directory leaves the files alone and adds directories on the way there. -/
theorem make_directory_adds (tree : MediaTree) (path : MediaPath) :
    ∃ made, made ⊆ path.ancestors ++ [path] ∧
      (tree.makeDirectory path).2 = { tree with directories := tree.directories ++ made } := by
  unfold makeDirectory
  split
  · exact ⟨[], List.nil_subset _, by simp⟩
  · split
    · exact ⟨[], List.nil_subset _, by simp⟩
    · refine ⟨_, ?_, rfl⟩
      intro directory member
      exact List.takeWhile_subset _ (List.mem_of_mem_filter member)

theorem make_directory_eq_ok_iff {opened : MediaTree} :
    tree.makeDirectory path.dropLast = (.ok (), opened) ↔
      (∀ directory ∈ path.around, tree.isFile directory = false) ∧
        (∀ directory ∈ path.around, nameFits directory = true) ∧
        opened = { tree with
          directories := tree.directories ++
            path.around.filter fun directory => !tree.isDirectory directory } := by
  have clear : (∀ directory ∈ path.around, tree.isFile directory = false) ↔
      (MediaPath.ancestors path.dropLast).any tree.isFile = false ∧
        tree.isFile path.dropLast = false := by
    simp [MediaPath.around, List.any_eq_false, or_imp, forall_and]
  rw [clear, ← List.all_eq_true]
  have way : MediaPath.ancestors path.dropLast ++ [path.dropLast] = path.around := rfl
  simp only [makeDirectory, way]
  cases (MediaPath.ancestors path.dropLast).any tree.isFile with
  | true => simp
  | false =>
      cases tree.isFile path.dropLast with
      | true => simp
      | false =>
          cases all : path.around.all nameFits with
          | false => simp
          | true =>
              rw [List.takeWhile_eq_self_iff.2 (List.all_eq_true.1 all)]
              simp [eq_comm]

theorem write_eq_ok_iff : tree.write path content = (.ok (), after) ↔
    ∃ opened, tree.makeDirectory path.dropLast = (.ok (), opened) ∧
      opened.isDirectory path = false ∧ nameFits path = true ∧
        after = { opened with files := setFile path content opened.files } := by
  unfold write
  rcases tree.makeDirectory path.dropLast with ⟨outcome, opened⟩
  cases outcome with
  | error failure => simp
  | ok _ =>
      constructor
      · intro written
        cases directory : opened.isDirectory path with
        | true => simp [directory] at written
        | false =>
            cases fits : nameFits path with
            | false => simp [directory, fits] at written
            | true =>
                simp only [directory, fits, Bool.false_eq_true, Bool.not_true, if_false] at written
                exact ⟨opened, rfl, directory, rfl, (congrArg Prod.snd written).symm⟩
      · rintro ⟨_, made, directory, fits, rfl⟩
        cases made
        simp [directory, fits]

/-- Of a write that fails only the directories stay that were made for it. -/
theorem after_failed_write {error : MediaError}
    (failed : tree.write path content = (.error error, after)) :
    after = (tree.makeDirectory path.dropLast).2 := by
  unfold write at failed
  split at failed
  · rename_i made
    cases failed
    rw [made]
  · rename_i made
    rw [made]
    split at failed
    · cases failed
      rfl
    · split at failed
      · cases failed
        rfl
      · cases failed

theorem mem_set_file {path : MediaPath} {content : Bytes} {files : List (MediaPath × Bytes)}
    {file : MediaPath × Bytes} (member : file ∈ setFile path content files) :
    file = (path, content) ∨ file ∈ files := by
  induction files with
  | nil => exact .inl (List.mem_singleton.1 member)
  | cons first rest induction =>
      rw [setFile] at member
      split at member
      · rcases List.mem_cons.1 member with same | later
        · exact .inl same
        · exact .inr (List.mem_cons_of_mem _ later)
      · rcases List.mem_cons.1 member with same | later
        · exact .inr (same ▸ List.mem_cons_self)
        · rcases induction later with same | old
          · exact .inl same
          · exact .inr (List.mem_cons_of_mem _ old)

/-! ## Places of files -/

theorem is_file_iff (tree : MediaTree) (path : MediaPath) :
    tree.isFile path = true ↔ ∃ content, (path, content) ∈ tree.files := by
  simp [isFile, read?]

/-- Files lie at their places, and directories on the way there. -/
structure IsLaidOut (tree : MediaTree) : Prop where
  files : ∀ file ∈ tree.files, file.1.IsPlace
  directories : ∀ directory ∈ tree.directories,
    ∃ file : MediaPath, file.IsPlace ∧ directory ∈ file.ancestors

theorem empty_is_laid_out : empty.IsLaidOut := by
  constructor <;> simp [empty]

namespace IsLaidOut

variable (laidOut : tree.IsLaidOut)

include laidOut

theorem no_file_on_the_way (place : path.IsPlace) {directory : MediaPath}
    (above : directory ∈ path.ancestors) : tree.isFile directory = false := by
  rw [Bool.eq_false_iff]
  intro isFile
  obtain ⟨content, member⟩ := (is_file_iff tree directory).1 isFile
  exact place.not_on_the_way above (laidOut.files _ member)

theorem no_directory_at (place : path.IsPlace) : path ∉ tree.directories := by
  intro member
  obtain ⟨file, other, above⟩ := laidOut.directories path member
  exact other.not_on_the_way above place

/-- Directories are made only on the way to a file. -/
theorem make_directory (place : path.IsPlace) : (tree.makeDirectory path.dropLast).2.IsLaidOut := by
  obtain ⟨made, way, result⟩ := tree.make_directory_adds path.dropLast
  rw [result]
  refine ⟨laidOut.files, ?_⟩
  intro directory member
  rcases List.mem_append.1 member with old | new
  · exact laidOut.directories directory old
  · exact ⟨path, place, place.around_eq ▸ way new⟩

theorem make_directory_succeeds (place : path.IsPlace)
    (fits : ∀ directory ∈ path.ancestors, nameFits directory = true) :
    (tree.makeDirectory path.dropLast).1 = .ok () := by
  have clear : ∀ directory ∈ path.ancestors, tree.isFile directory = false :=
    fun _ above => laidOut.no_file_on_the_way place above
  rw [← place.around_eq] at clear fits
  exact congrArg Prod.fst (make_directory_eq_ok_iff.2 ⟨clear, fits, rfl⟩)

theorem write (place : path.IsPlace) (content : Bytes) :
    (tree.write path content).2.IsLaidOut := by
  have around := laidOut.make_directory place
  rcases result : tree.write path content with ⟨outcome, after⟩
  cases outcome with
  | error failure =>
      rw [after_failed_write result]
      exact around
  | ok _ =>
      obtain ⟨opened, made, _, _, rfl⟩ := write_eq_ok_iff.1 result
      rw [made] at around
      refine ⟨?_, around.directories⟩
      intro file member
      rcases mem_set_file member with rfl | old
      · exact place
      · exact around.files file old

/-- A file is written at its place unless a name on the way there is too long. -/
theorem write_succeeds (place : path.IsPlace) (content : Bytes) (fits : nameFits path = true)
    (way : ∀ directory ∈ path.ancestors, nameFits directory = true) :
    (tree.write path content).1 = .ok () := by
  have succeeds := laidOut.make_directory_succeeds place way
  have absent := (laidOut.make_directory place).no_directory_at place
  have noDirectory : (tree.makeDirectory path.dropLast).2.isDirectory path = false := by
    simp [isDirectory, place.not_empty, absent]
  exact congrArg Prod.fst
    (write_eq_ok_iff.2 ⟨_, Prod.ext succeeds rfl, noDirectory, fits, rfl⟩)

theorem erase (path : MediaPath) : (tree.erase path).IsLaidOut where
  files file member := laidOut.files file (List.mem_of_mem_filter member)
  directories := laidOut.directories

theorem remove_file (database : Database) (path : Option String) :
    (Store.removeFile ⟨database, tree⟩ path).media.IsLaidOut := by
  cases path with
  | none => exact laidOut
  | some path => exact laidOut.erase _

end IsLaidOut

end MediaTree

/-! ## Operations -/

namespace Operation

variable {store : Store} {operation : Operation}

/-- An attached file has the name of a file. -/
def IsWellNamed : Operation → Prop
  | createAttachment _ input _ => ∀ file ∈ input.file, Attachment.isFileName file.name = true
  | _ => True

/-- The name under which a file is kept is not too long for a file system. -/
def HasFittingName (store : Store) (operation : Operation) : Prop :=
  ∀ file ∈ operation.file store, MediaTree.nameFits (MediaPath.ofText file.1) = true

/-- The owner of an attached file has a key of 64 bits. -/
def HasShortKey : Operation → Prop
  | createAttachment _ input _ => Number.fitsInt64 input.owner = true
  | _ => True

theorem attachment_place (owner : AttachmentOwner) {name : String}
    (fits : Attachment.isFileName name = true) (tree : MediaTree) :
    ∃ other, MediaPath.ofText (tree.freePath (owner.storagePath name)) =
      owner.directories ++ [other] := by
  obtain ⟨other, proper, placed⟩ := tree.free_path_to_text owner.directories
    (by simp [AttachmentOwner.directories]) (is_component_of_file_name fits)
  rw [owner.storage_path_eq, placed]
  exact ⟨other,
    MediaPath.of_text_append (fun _ member => owner.is_component_of_directory member) proper⟩

/-- An operation keeps its file in the directory of the images or in that of an owner. -/
theorem place_of_file (wellNamed : operation.IsWellNamed) {file : String × Bytes}
    (asked : operation.file store = some file) :
    (∃ name, MediaPath.ofText file.1 = [Company.imageDirectory, name]) ∨
      ∃ owner : AttachmentOwner, (operation.HasShortKey → Number.fitsInt64 owner.pk = true) ∧
        ∃ name, MediaPath.ofText file.1 = owner.directories ++ [name] := by
  cases operation with
  | createCompany changes image =>
      obtain ⟨picture, _, rfl⟩ := Option.map_eq_some_iff.1 asked
      exact .inl ⟨_, CompanyImage.of_text_path _ _⟩
  | updateCompany pk changes image =>
      obtain ⟨picture, _, rfl⟩ := Option.map_eq_some_iff.1 asked
      exact .inl ⟨_, CompanyImage.of_text_path _ _⟩
  | createAttachment kind input today =>
      obtain ⟨uploaded, given, rfl⟩ := Option.map_eq_some_iff.1 asked
      refine .inr ⟨kind.owner input.owner, ?_, attachment_place _ (wellNamed uploaded given) _⟩
      intro short
      cases kind <;> exact short
  | _ => cases asked

theorem is_place_of_file (wellNamed : operation.IsWellNamed) {file : String × Bytes}
    (asked : operation.file store = some file) : (MediaPath.ofText file.1).IsPlace := by
  rcases place_of_file wellNamed asked with ⟨name, image⟩ | ⟨owner, _, name, attached⟩
  · exact .inl ⟨name, image⟩
  · exact .inr ⟨_, _, name, attached⟩

/-- The directories have fixed names or the key of an owner for a name. -/
theorem way_fits (wellNamed : operation.IsWellNamed) (short : operation.HasShortKey)
    {file : String × Bytes} (asked : operation.file store = some file) :
    ∀ directory ∈ (MediaPath.ofText file.1).ancestors, MediaTree.nameFits directory = true := by
  rcases place_of_file wellNamed asked with ⟨name, image⟩ | ⟨owner, word, name, attached⟩
  · rw [image]
    intro directory member
    obtain rfl : directory = [Company.imageDirectory] := by simpa [MediaPath.ancestors] using member
    decide
  · have key : (toString owner.pk).utf8ByteSize ≤ MediaTree.nameLimit :=
      calc (toString owner.pk).utf8ByteSize
          ≤ 4 * (toString owner.pk).toList.length := Text.utf8_byte_size_le _
        _ ≤ 4 * 20 := Nat.mul_le_mul_left 4 (Number.length_of_whole (word short))
        _ ≤ MediaTree.nameLimit := by decide
    rw [attached]
    intro directory member
    simp only [AttachmentOwner.directories, List.cons_append, List.nil_append,
      MediaPath.ancestors, List.map_cons, List.map_nil, List.mem_cons, List.not_mem_nil,
      or_false] at member
    rcases member with rfl | rfl | rfl
    · decide
    · cases owner.kind <;> decide
    · simpa [MediaTree.nameFits] using key

/-- Writing the file of an operation leaves the layout as it is, and fails only on a long name. -/
theorem keep_file (wellNamed : operation.IsWellNamed) (laidOut : store.media.IsLaidOut)
    {outcome : Except MediaError Unit} {media : MediaTree}
    (kept : store.media.keep (operation.file store) = (outcome, media)) :
    media.IsLaidOut ∧
      (operation.HasShortKey → operation.HasFittingName store → outcome = .ok ()) := by
  cases asked : operation.file store with
  | none =>
      rw [asked] at kept
      cases kept
      exact ⟨laidOut, fun _ _ => rfl⟩
  | some file =>
      have place := is_place_of_file wellNamed asked
      have written := laidOut.write place file.2
      rw [asked, MediaTree.keep] at kept
      rw [kept] at written
      refine ⟨written, ?_⟩
      intro short fitting
      have succeeds := laidOut.write_succeeds place file.2 (fitting file asked)
        (way_fits wellNamed short asked)
      rw [kept] at succeeds
      exact succeeds

theorem run_is_laid_out (sound : store.database.IsSound) (wellNamed : operation.IsWellNamed)
    (laidOut : store.media.IsLaidOut) : (operation.run store).2.media.IsLaidOut := by
  have ends := operation.run_ends sound
  generalize operation.run store = outcome at ends ⊢
  cases ends with
  | done makes allowed kept => exact (keep_file wellNamed laidOut kept).1.remove_file _ _
  | refused failure expected => exact laidOut
  | dangling seeds missing failure => exact laidOut
  | unwritten error kept => exact (keep_file wellNamed laidOut kept).1

/-- An operation of a client does what it is asked for or tells what is wrong with it. -/
theorem run_yields (sound : store.database.IsSound) (wellNamed : operation.IsWellNamed)
    (laidOut : store.media.IsLaidOut) (short : operation.HasShortKey)
    (fits : operation.HasFittingName store) (asked : ∀ item, operation ≠ .addStockItem item) :
    Yields (operation.run store).1 fun _ => True := by
  have ends := operation.run_ends sound
  generalize operation.run store = outcome at ends ⊢
  cases ends with
  | done makes allowed kept => trivial
  | refused failure expected => exact expected
  | dangling seeds missing failure => exact absurd seeds (asked _)
  | unwritten error kept =>
      have succeeds := (keep_file wellNamed laidOut kept).2 short fits
      cases succeeds

end Operation

end SupplyCatalog
