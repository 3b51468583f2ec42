import SupplyCatalog.Proofs.MediaFile

/-!
# Files that are taken back

A file is written before it is certain that it will be kept. Taken back, it leaves every other file
as it was, and nothing at its own path if nothing had been there. A file over which it was written
does not come back: the new content stays in its place.
-/

namespace SupplyCatalog

/-! ## Where a file can be written -/

namespace MediaTree

theorem is_directory_of_make_directory {tree : MediaTree} {place : MediaPath}
    (directory : tree.isDirectory place = true) (path : MediaPath) :
    (tree.makeDirectory path).2.isDirectory place = true := by
  obtain ⟨made, _, result⟩ := tree.make_directory_adds path
  rw [result]
  unfold isDirectory at directory ⊢
  rw [Bool.or_eq_true, List.contains_iff_mem] at directory ⊢
  exact directory.imp_right (List.mem_append_left _)

/-- A file is never written where a directory stands. -/
theorem not_directory_of_write {tree after : MediaTree} {path : MediaPath} {content : Bytes}
    (written : tree.write path content = (.ok (), after)) : tree.isDirectory path = false := by
  obtain ⟨opened, made, absent, _⟩ := write_eq_ok_iff.1 written
  rw [Bool.eq_false_iff]
  intro directory
  have stands := is_directory_of_make_directory directory path.dropLast
  rw [made, absent] at stands
  cases stands

end MediaTree

/-! ## Taking a file back -/

namespace StagedFile

/-- What is left of a tree when a file that was written at the path has been taken back. -/
structure IsTakenBack (tree : MediaTree) (path : MediaPath) (content : Bytes)
    (after : MediaTree) : Prop where
  others : ∀ place, place ≠ path → after.read? place = tree.read? place
  new : tree.read? path = none → after.read? path = none
  replaced : ∀ old, tree.read? path = some old → after.read? path = some content

variable {tree after : MediaTree} {content : Bytes}

/-- All files are as they were unless another content was replaced. -/
theorem IsTakenBack.same_iff {path : MediaPath} (back : IsTakenBack tree path content after) :
    (∀ place, after.read? place = tree.read? place) ↔
      ∀ old, tree.read? path = some old → old = content := by
  constructor
  · intro same old there
    have stays := back.replaced old there
    rw [same path, there] at stays
    exact Option.some.inj stays
  · intro held place
    by_cases own : place = path
    · subst own
      cases there : tree.read? place with
      | none => exact back.new there
      | some old => rw [back.replaced old there, held old there]
    · exact back.others place own

variable {path : String} {staged : StagedFile}

theorem write_eq_ok_iff : write tree path content = (.ok staged, after) ↔
    tree.write (MediaPath.ofText path) content = (.ok (), after) ∧
      staged = ⟨MediaPath.ofText path, !tree.hasEntry (MediaPath.ofText path)⟩ := by
  unfold write
  dsimp only
  rcases tree.write (MediaPath.ofText path) content with ⟨outcome, media⟩
  cases outcome with
  | ok _ => simp [and_comm, eq_comm]
  | error _ => simp

/-- Where a file can be written, what it is written over is a file. -/
theorem fresh_iff (written : write tree path content = (.ok staged, after)) :
    staged.isFresh = true ↔ tree.read? (MediaPath.ofText path) = none := by
  obtain ⟨kept, rfl⟩ := write_eq_ok_iff.1 written
  have notDirectory := MediaTree.not_directory_of_write kept
  simp [MediaTree.hasEntry, notDirectory, MediaTree.isFile]

theorem is_taken_back_of_discard (written : write tree path content = (.ok staged, after)) :
    IsTakenBack tree (MediaPath.ofText path) content (staged.discard after) := by
  have fresh := fresh_iff written
  obtain ⟨kept, same⟩ := write_eq_ok_iff.1 written
  have place : staged.path = MediaPath.ofText path := congrArg StagedFile.path same
  unfold discard
  by_cases free : tree.read? (MediaPath.ofText path) = none
  · rw [if_pos (fresh.2 free), place]
    refine ⟨?_, ?_, ?_⟩
    · intro other different
      rw [MediaTree.read_erase, if_neg different, MediaTree.read_write kept, if_neg different]
    · intro _
      rw [MediaTree.read_erase, if_pos rfl]
    · intro old there
      rw [free] at there
      cases there
  · rw [if_neg (mt fresh.1 free)]
    refine ⟨?_, fun none => (free none).elim, ?_⟩
    · intro other different
      rw [MediaTree.read_write kept, if_neg different]
    · intro _ _
      rw [MediaTree.read_write kept, if_pos rfl]

/-- Taking a file back undoes the writing of a new one, and of one that replaces another it leaves
the new content. A write whose answer fails once its file is there leaves no more than this. -/
theorem staged_files_are_taken_back (tree : MediaTree) {path : MediaPath}
    (relative : path.IsRelative) (content : Bytes) {staged : StagedFile} {after : MediaTree}
    (written : write tree path.toText content = (.ok staged, after)) :
    IsTakenBack tree path content (staged.discard after) ∧
      ((∀ place, (staged.discard after).read? place = tree.read? place) ↔
        ∀ old, tree.read? path = some old → old = content) ∧
      ∀ (α : Type) (database drafted : Database) (failure : ServiceError),
        (⟨database, tree⟩ : Store).commit
            (⟨drafted, some (path.toText, content), .error failure⟩ : Draft α) =
          (.error failure, ⟨database, staged.discard after⟩) := by
  have back := is_taken_back_of_discard written
  rw [MediaPath.of_text_to_text relative.some relative.proper] at back
  refine ⟨back, back.same_iff, ?_⟩
  intro α database drafted failure
  simp only [Store.commit, written]

def imagePlace : MediaPath := ["company_images", "company_1_image.png"]

theorem image_place_is_relative : imagePlace.IsRelative := by
  refine ⟨by decide, ?_, by decide⟩
  intro component member
  simp only [imagePlace, List.mem_cons, List.not_mem_nil, or_false] at member
  rcases member with rfl | rfl
  · exact ⟨by decide, by decide, by decide⟩
  · exact ⟨by decide, by decide, by decide⟩

def imageOfAnother : MediaTree :=
  ⟨[(["company_images", "company_2_image.png"], [7])], [["company_images"]]⟩

def withNewImage : MediaTree :=
  ⟨[(["company_images", "company_2_image.png"], [7]), (imagePlace, [1])], [["company_images"]]⟩

/-- A new image is taken back, and that of another company stays. -/
theorem new_image_is_taken_back :
    imagePlace.IsRelative ∧
      write imageOfAnother imagePlace.toText [1] = (.ok ⟨imagePlace, true⟩, withNewImage) ∧
      ∀ place, (discard ⟨imagePlace, true⟩ withNewImage).read? place =
        imageOfAnother.read? place := by
  have written : write imageOfAnother imagePlace.toText [1] =
      (.ok ⟨imagePlace, true⟩, withNewImage) := by
    decide +kernel
  obtain ⟨_, same, _⟩ :=
    staged_files_are_taken_back imageOfAnother image_place_is_relative [1] written
  refine ⟨image_place_is_relative, written, same.2 ?_⟩
  intro old there
  have absent : imageOfAnother.read? imagePlace = none := by decide +kernel
  rw [absent] at there
  cases there

/-! ## A file that is replaced -/

def withImage (content : Bytes) : MediaTree := ⟨[(imagePlace, content)], [["company_images"]]⟩

/-- The image of a company is written over another one of the same format. -/
theorem replaced_file_does_not_come_back :
    ¬∀ (tree : MediaTree) (path : MediaPath) (content : Bytes) (staged : StagedFile)
      (after : MediaTree), path.IsRelative →
        write tree path.toText content = (.ok staged, after) →
          ∀ place, (staged.discard after).read? place = tree.read? place := by
  intro undone
  have written : write (withImage [1]) imagePlace.toText [2] =
      (.ok ⟨imagePlace, false⟩, withImage [2]) := by
    decide +kernel
  have same := undone _ _ _ _ _ image_place_is_relative written imagePlace
  exact absurd same (by decide)

end StagedFile

end SupplyCatalog
