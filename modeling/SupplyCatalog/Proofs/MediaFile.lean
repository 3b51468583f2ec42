import SupplyCatalog.Proofs.MediaLayout

/-!
# Files after an operation

An operation writes at most one file and, once it has taken effect, removes at most one. All other
files keep their content, and an operation that does not succeed leaves every file as it was.
-/

namespace SupplyCatalog

namespace MediaTree

/-! ## Files after writing and removing -/

theorem read_congr {tree other : MediaTree} (same : other.files = tree.files) (place : MediaPath) :
    other.read? place = tree.read? place := by
  unfold read?
  rw [same]

theorem read_set_file (path : MediaPath) (content : Bytes) (files : List (MediaPath × Bytes))
    (directories : List MediaPath) (place : MediaPath) :
    (⟨setFile path content files, directories⟩ : MediaTree).read? place =
      if place = path then some content else (⟨files, directories⟩ : MediaTree).read? place := by
  induction files with
  | nil =>
      by_cases same : place = path
      · simp [read?, setFile, same]
      · simp [read?, setFile, same, Ne.symm same]
  | cons file rest induction =>
      simp only [read?] at induction ⊢
      rw [setFile]
      by_cases own : file.1 = path
      · by_cases same : place = path
        · simp [own, same]
        · simp [own, same, Ne.symm same]
      · by_cases here : file.1 = place
        · simp [here, here ▸ own]
        · simp [own, here, induction]

theorem files_of_make_directory (tree : MediaTree) (path : MediaPath) :
    (tree.makeDirectory path).2.files = tree.files := by
  obtain ⟨made, _, result⟩ := tree.make_directory_adds path
  rw [result]

theorem read_write {tree after : MediaTree} {path : MediaPath} {content : Bytes}
    (written : tree.write path content = (.ok (), after)) (place : MediaPath) :
    after.read? place = if place = path then some content else tree.read? place := by
  obtain ⟨opened, made, _, _, rfl⟩ := write_eq_ok_iff.1 written
  have same := tree.files_of_make_directory path.dropLast
  rw [made] at same
  rw [read_set_file, read_congr same]

theorem files_of_failed_write {tree after : MediaTree} {path : MediaPath} {content : Bytes}
    {error : MediaError} (failed : tree.write path content = (.error error, after)) :
    after.files = tree.files := by
  rw [after_failed_write failed, files_of_make_directory]

theorem read_erase (tree : MediaTree) (path place : MediaPath) :
    (tree.erase path).read? place = if place = path then none else tree.read? place := by
  unfold erase read?
  rw [List.find?_filter]
  by_cases same : place = path
  · have absent :
        tree.files.find? (fun file => decide (file.1 != path ∧ file.1 == place)) = none := by
      apply List.find?_eq_none.2
      intro file _
      simp [same]
    rw [if_pos same, absent]
    rfl
  · have tests : (fun file : MediaPath × Bytes => decide (file.1 != path ∧ file.1 == place)) =
        fun file => file.1 == place := by
      funext file
      by_cases here : file.1 = place
      · simp [here, same]
      · simp [here]
    rw [if_neg same, tests]

section Kept

variable {tree after : MediaTree} {file : Option (String × Bytes)}

theorem read_keep_own {path : String} {content : Bytes} (asked : file = some (path, content))
    (kept : tree.keep file = (.ok (), after)) :
    after.read? (MediaPath.ofText path) = some content := by
  subst asked
  rw [read_write kept, if_pos rfl]

theorem read_keep_other {place : MediaPath}
    (other : ∀ given ∈ file, MediaPath.ofText given.1 ≠ place)
    (kept : tree.keep file = (.ok (), after)) : after.read? place = tree.read? place := by
  cases file with
  | none =>
      cases kept
      rfl
  | some given => rw [read_write kept, if_neg (other given rfl).symm]

theorem files_of_failed_keep {error : MediaError}
    (failed : tree.keep file = (.error error, after)) : after.files = tree.files := by
  cases file with
  | none => cases failed
  | some given => exact files_of_failed_write failed

end Kept

end MediaTree

namespace Store

variable {store : Store} {path : Option String}

theorem read_removed {text : String} (given : path = some text) :
    (store.removeFile path).media.read? (MediaPath.ofText text) = none := by
  subst given
  exact (MediaTree.read_erase _ _ _).trans (if_pos rfl)

theorem read_remaining {place : MediaPath} (other : ∀ text ∈ path, MediaPath.ofText text ≠ place) :
    (store.removeFile path).media.read? place = store.media.read? place := by
  cases path with
  | none => rfl
  | some text => exact (MediaTree.read_erase _ _ _).trans (if_neg (other text rfl).symm)

end Store

/-! ## Files after an operation -/

namespace Operation

variable {store : Store} {operation : Operation} (sound : store.database.IsSound)

include sound

/-- An operation that does not succeed leaves rows, counters and files as they were. -/
theorem run_of_failure (fails : ¬ operation.Succeeds store) :
    (operation.run store).2.database = store.database ∧
      (operation.run store).2.media.files = store.media.files := by
  have ends := operation.run_ends sound
  unfold Succeeds at fails
  generalize operation.run store = outcome at ends fails ⊢
  cases ends with
  | done makes allowed kept => exact absurd rfl fails
  | refused failure expected => exact ⟨rfl, rfl⟩
  | dangling seeds missing failure => exact ⟨rfl, rfl⟩
  | unwritten error kept => exact ⟨rfl, MediaTree.files_of_failed_keep kept⟩

theorem read_of_failure (fails : ¬ operation.Succeeds store) (place : MediaPath) :
    (operation.run store).2.media.read? place = store.media.read? place :=
  MediaTree.read_congr (run_of_failure sound fails).2 place

/-- A file that is neither written nor removed stays as it is. -/
theorem read_of_untouched {place : MediaPath}
    (unwritten : ∀ file ∈ operation.file store, MediaPath.ofText file.1 ≠ place)
    (unremoved : ∀ path ∈ operation.abandoned store, MediaPath.ofText path ≠ place) :
    (operation.run store).2.media.read? place = store.media.read? place := by
  by_cases succeeds : operation.Succeeds store
  · obtain ⟨changes, media, _, _, kept, result⟩ := Store.outcome_of_success sound succeeds
    rw [result, Store.read_remaining unremoved]
    exact MediaTree.read_keep_other unwritten kept
  · exact read_of_failure sound succeeds place

theorem read_of_written (succeeds : operation.Succeeds store) {path : String} {content : Bytes}
    (asked : operation.file store = some (path, content))
    (unremoved : ∀ gone ∈ operation.abandoned store,
      MediaPath.ofText gone ≠ MediaPath.ofText path) :
    (operation.run store).2.media.read? (MediaPath.ofText path) = some content := by
  obtain ⟨changes, media, _, _, kept, result⟩ := Store.outcome_of_success sound succeeds
  rw [result, Store.read_remaining unremoved]
  exact MediaTree.read_keep_own asked kept

theorem read_of_abandoned (succeeds : operation.Succeeds store) {path : String}
    (gone : operation.abandoned store = some path) :
    (operation.run store).2.media.read? (MediaPath.ofText path) = none := by
  obtain ⟨changes, media, _, _, _, result⟩ := Store.outcome_of_success sound succeeds
  rw [result]
  exact Store.read_removed gone

end Operation

end SupplyCatalog
