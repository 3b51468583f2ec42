import Mathlib.Data.List.Nodup
import Mathlib.Data.List.Perm.Subperm
import SupplyCatalog.Proofs.MediaPath

/-!
# Free paths

No two numbers behind a name give the same name, and there are more numbers to try than things in
the tree. So nothing stands at the path that is found for a new file.
-/

namespace SupplyCatalog.MediaTree

theorem numbered_name_injective (name : String) : Function.Injective (numberedName name) := by
  intro left right same
  have chars := congrArg String.toList same
  simp only [numberedName, String.toList_ofList] at chars
  have behindStem := List.append_cancel_left chars
  exact Number.eq_of_to_digits_eq (List.append_cancel_right (List.cons.inj behindStem).2)

/-- What stands in a tree below its root is a file or a directory. -/
theorem mem_of_has_entry {tree : MediaTree} {path : MediaPath} (below : path ≠ [])
    (entry : tree.hasEntry path = true) : path ∈ tree.files.map (·.1) ++ tree.directories := by
  rw [List.mem_append]
  simp only [hasEntry, isFile, read?, isDirectory, Bool.or_eq_true, Option.isSome_map,
    List.isEmpty_iff, below, false_or, List.contains_iff_mem] at entry
  rcases entry with file | directory
  · obtain ⟨file, member, same⟩ := List.find?_isSome.1 file
    exact .inl (List.mem_map.2 ⟨file, member, by simpa using same⟩)
  · exact .inr directory

/-- Among more paths than there are things in the tree, one is free. -/
theorem exists_free (tree : MediaTree) {paths : Nat → MediaPath}
    (injective : Function.Injective paths) (below : ∀ number, paths number ≠ []) {tries : Nat}
    (enough : tree.files.length + tree.directories.length < tries) :
    ∃ number < tries, tree.hasEntry (paths number) = false := by
  by_contra none
  have taken : (List.range tries).map paths ⊆ tree.files.map (·.1) ++ tree.directories := by
    intro path member
    obtain ⟨number, among, rfl⟩ := List.mem_map.1 member
    apply mem_of_has_entry (below number)
    by_contra free
    exact none ⟨number, List.mem_range.1 among, by simpa using free⟩
  have distinct : ((List.range tries).map paths).Nodup := List.Nodup.map injective List.nodup_range
  have bound := (List.subperm_of_subset distinct taken).length_le
  simp only [List.length_map, List.length_range, List.length_append] at bound
  omega

/-- Where the path is taken, the search stops at the least number whose path is free, as soon as
one of those that are tried is. -/
theorem free_path_of_taken (tree : MediaTree) {path : String} (taken : tree.has path = true)
    {index : Nat} (tried : index < tree.files.length + tree.directories.length + 2)
    (free : tree.has (numbered path (index + 1)) = false) :
    ∃ number, 1 ≤ number ∧ number ≤ index + 1 ∧ tree.freePath path = numbered path number ∧
      tree.has (numbered path number) = false ∧
      ∀ smaller, 1 ≤ smaller → smaller < number → tree.has (numbered path smaller) = true := by
  unfold freePath
  simp only [taken, if_true]
  cases found : List.find? _ _ with
  | none =>
      have stands := List.find?_eq_none.1 found _
        (List.mem_map.2 ⟨index, List.mem_range.2 tried, rfl⟩)
      rw [free] at stands
      exact absurd rfl stands
  | some candidate =>
      obtain ⟨passes, position, inside, same, earlier⟩ :=
        List.find?_eq_some_iff_getElem.1 found
      rw [List.getElem_map, List.getElem_range] at same
      rw [List.length_map, List.length_range] at inside
      have standsBefore (before : Nat) (less : before < position) :
          tree.has (numbered path (before + 1)) = true := by
        have stands := earlier before less
        rw [List.getElem_map, List.getElem_range] at stands
        simpa using stands
      refine ⟨position + 1, by omega, ?_, same.symm, by rw [same]; simpa using passes, ?_⟩
      · by_contra later
        rw [standsBefore index (by omega)] at free
        cases free
      · intro smaller positive less
        obtain ⟨before, rfl⟩ : ∃ before, smaller = before + 1 := ⟨smaller - 1, by omega⟩
        exact standsBefore before (by omega)

section Numbered

variable {directories : MediaPath} (some : directories ≠ [])
  (proper : ∀ component ∈ directories, MediaPath.IsComponent component) {name : String}
  (named : MediaPath.IsComponent name)

include some proper named

theorem of_text_numbered (number : Nat) :
    MediaPath.ofText (numbered (MediaPath.toText (directories ++ [name])) number) =
      directories ++ [numberedName name number] := by
  rw [numbered_to_text directories some named,
    MediaPath.of_text_append proper (is_component_numbered_name named number)]

/-- Where something stands at the path that is asked for, the search ends: there are not as many
things in the tree as numbers to try. -/
theorem first_free_number (tree : MediaTree)
    (taken : tree.has (MediaPath.toText (directories ++ [name])) = true) :
    ∃ number, 1 ≤ number ∧ number ≤ tree.files.length + tree.directories.length + 1 ∧
      tree.freePath (MediaPath.toText (directories ++ [name])) =
        numbered (MediaPath.toText (directories ++ [name])) number ∧
      tree.has (numbered (MediaPath.toText (directories ++ [name])) number) = false ∧
      ∀ smaller, 1 ≤ smaller → smaller < number →
        tree.has (numbered (MediaPath.toText (directories ++ [name])) smaller) = true := by
  have injective : Function.Injective fun index =>
      directories ++ [numberedName name (index + 1)] := by
    intro left right same
    have names := List.append_cancel_left same
    have numbers := numbered_name_injective name (List.singleton_inj.1 names)
    omega
  obtain ⟨index, below, free⟩ := tree.exists_free injective (by simp) (Nat.lt_succ_self _)
  rw [← of_text_numbered some proper named] at free
  obtain ⟨number, positive, within, rest⟩ := tree.free_path_of_taken taken (by omega) free
  exact ⟨number, positive, by omega, rest⟩

/-- Where a file is put in a directory, nothing has stood before. -/
theorem has_free_path (tree : MediaTree) :
    tree.has (tree.freePath (MediaPath.toText (directories ++ [name]))) = false := by
  cases taken : tree.has (MediaPath.toText (directories ++ [name])) with
  | false => simp [freePath, taken]
  | true =>
      obtain ⟨number, _, _, found, free, _⟩ := first_free_number some proper named tree taken
      rw [found, free]

end Numbered

end SupplyCatalog.MediaTree
