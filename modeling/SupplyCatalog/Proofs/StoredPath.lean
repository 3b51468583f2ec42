import SupplyCatalog.Proofs.MediaRow

/-!
# Places of new files

A file that is sent goes into the directory of its owner, to the path that is asked for or, where
something stands there already, to the first free one that has a number behind the stem of the name.
The number changes nothing about what the name must not be, so no name leads out of the directory.
-/

namespace SupplyCatalog

/-! ## Names with numbers -/

namespace MediaTree

/-- A name divided where a number goes: in front of its last dot, unless that is the first
character, and else behind the name. -/
inductive Divides : (name stem suffix : String) → Prop
  | extension {stem ending : String} : stem ≠ "" → '.' ∉ ending.toList →
      Divides (stem ++ "." ++ ending) stem ("." ++ ending)
  | whole {name : String} : '.' ∉ name.toList.tail → Divides name name ""

/-- Every name is divided in one of the two ways. -/
theorem exists_divides (name : String) : ∃ stem suffix, Divides name stem suffix := by
  cases found : Text.splitLast? (· == '.') name.toList with
  | none =>
      have noDot := Text.unmarked_iff.1 (Text.unmarked_of_split_last_none found)
      exact ⟨name, "", .whole fun dot => noDot (List.mem_of_mem_tail dot)⟩
  | some pieces =>
      obtain ⟨before, after⟩ := pieces
      obtain ⟨mark, marks, joined, clean⟩ := Text.eq_append_of_split_last found
      obtain rfl : mark = '.' := by simpa using marks
      have noDot := Text.unmarked_iff.1 clean
      cases before with
      | nil =>
          refine ⟨name, "", .whole ?_⟩
          rw [joined]
          exact noDot
      | cons first others =>
          have whole : name = String.ofList (first :: others) ++ "." ++ String.ofList after := by
            rw [← String.toList_inj, joined]
            simp
          refine ⟨String.ofList (first :: others), "." ++ String.ofList after, ?_⟩
          rw [whole]
          exact .extension (by simp [← String.toList_inj]) (by simpa using noDot)

theorem Divides.split {name stem suffix : String} (divides : Divides name stem suffix) :
    splitExtension name.toList = (stem.toList, suffix.toList) := by
  cases divides with
  | @extension stem ending filled noDot =>
      have chars : (stem ++ "." ++ ending).toList = stem.toList ++ '.' :: ending.toList := by
        simp
      have some : stem.toList ≠ [] := by simpa using filled
      unfold splitExtension
      rw [chars, Text.split_last_append _ (by rfl) (Text.unmarked_iff.2 noDot)]
      simp [some]
  | whole noDot =>
      unfold splitExtension
      cases chars : name.toList with
      | nil => simp [Text.splitLast?]
      | cons first rest =>
          rw [chars, List.tail_cons] at noDot
          have later := Text.split_last_none (Text.unmarked_iff.2 noDot)
          by_cases dot : first = '.' <;> simp [Text.splitLast?, later, dot]

theorem Divides.numbered_name {name stem suffix : String} (divides : Divides name stem suffix)
    (number : Nat) : numberedName name number = stem ++ "_" ++ toString number ++ suffix := by
  have underscore : "_".toList = ['_'] := rfl
  simp [numberedName, divides.split, underscore, ← String.toList_inj]

end MediaTree

/-! ## Names of files -/

namespace Attachment

/-- What the name of a file is not, and what does not stand in it. -/
theorem is_file_name_iff (name : String) :
    isFileName name = true ↔
      name ≠ "" ∧ name ≠ "." ∧ name ≠ ".." ∧ ∀ c ∈ ['/', '\\', '\x00'], c ∉ name.toList := by
  have clean : (name.toList.any fun c => c == '/' || c == '\\' || c == '\x00') = false ↔
      ∀ c ∈ ['/', '\\', '\x00'], c ∉ name.toList := by
    simp only [List.any_eq_false, Bool.or_eq_true, beq_iff_eq, List.forall_mem_cons]
    constructor
    · intro unmarked
      exact ⟨fun slash => unmarked _ slash (.inl (.inl rfl)),
        fun backslash => unmarked _ backslash (.inl (.inr rfl)),
        fun null => unmarked _ null (.inr rfl), List.forall_mem_nil _⟩
    · rintro ⟨slash, backslash, null, _⟩ c member ((rfl | rfl) | rfl)
      · exact slash member
      · exact backslash member
      · exact null member
  simp only [isFileName, Bool.and_eq_true, bne_iff_ne, Bool.not_eq_true', clean, and_assoc]

/-- Digits and the mark in front of them keep a name fit. -/
theorem is_file_name_numbered {name : String} (fits : isFileName name = true) (number : Nat) :
    isFileName (MediaTree.numberedName name number) = true := by
  rw [is_file_name_iff] at fits ⊢
  obtain ⟨_, _, _, clean⟩ := fits
  have underscore : '_' ∈ (MediaTree.numberedName name number).toList := by
    simp [MediaTree.numberedName]
  have different (other : String) (unmarked : '_' ∉ other.toList) :
      MediaTree.numberedName name number ≠ other := by
    rintro same
    rw [same] at underscore
    exact unmarked underscore
  refine ⟨different "" (by decide), different "." (by decide), different ".." (by decide), ?_⟩
  intro c separates member
  rcases MediaTree.mem_numbered_name member with inName | rfl | isDigit
  · exact clean c separates inName
  · exact absurd separates (by decide)
  · have digit := Nat.isDigit_of_mem_toDigits (by decide) (by decide) isDigit
    simp only [List.mem_cons, List.not_mem_nil, or_false] at separates
    rcases separates with rfl | rfl | rfl <;> exact absurd digit (by decide)

/-- What follows the last slash of a path in a directory. -/
theorem file_name_of_path (attachment : Attachment) {directory name : String}
    (fits : isFileName name = true) (stored : attachment.path = some (directory ++ "/" ++ name)) :
    attachment.fileName = some name := by
  obtain ⟨named, _, _, clean⟩ := (is_file_name_iff name).1 fits
  have noSlash : '/' ∉ name.toList := clean '/' List.mem_cons_self
  have chars : (directory ++ "/" ++ name).toList = directory.toList ++ '/' :: name.toList := by
    simp
  have last : lastComponent (directory ++ "/" ++ name) = name := by
    unfold lastComponent
    rw [chars, Text.split_last_append _ (by rfl) (Text.unmarked_iff.2 noSlash)]
    exact String.ofList_toList
  unfold fileName
  rw [stored, Option.map_some, last]
  exact if_neg named

end Attachment

/-! ## Directories of owners -/

namespace AttachmentOwner

theorem of_text_directory (owner : AttachmentOwner) :
    MediaPath.ofText owner.directory = owner.directories := by
  have text : owner.directory = MediaPath.toText owner.directories := by
    have parts : owner.directory =
        "attachments/" ++ (owner.kind.directory ++ "/" ++ toString owner.pk) := rfl
    rw [parts]
    simp [directories, MediaPath.toText]
  rw [text]
  exact MediaPath.of_text_to_text (by simp [directories])
    fun _ member => owner.is_component_of_directory member

theorem eq_of_directories_eq {owner other : AttachmentOwner}
    (same : owner.directories = other.directories) : owner = other := by
  simp only [directories, List.cons.injEq, true_and, and_true] at same
  obtain ⟨kinds, keys⟩ := same
  have key := eq_of_key_eq keys
  have different : AttachmentKind.company.directory ≠ AttachmentKind.manufacturerPart.directory :=
    by decide
  cases owner <;> cases other
  · exact congrArg company key
  · exact absurd kinds different
  · exact absurd kinds.symm different
  · exact congrArg manufacturerPart key

/-- No path leads through the directories of two owners. -/
theorem eq_of_common_path {owner other : AttachmentOwner} {path : MediaPath}
    (own : MediaPath.ofText owner.directory <+: path)
    (others : MediaPath.ofText other.directory <+: path) : owner = other := by
  rw [of_text_directory] at own others
  have first := List.prefix_iff_eq_take.1 own
  have second := List.prefix_iff_eq_take.1 others
  exact eq_of_directories_eq (first.trans second.symm)

/-- The path leads to a file right in the directory of the owner. The name of the file leads nowhere
else, and it is the one that an attachment with this path shows. -/
structure HoldsNamed (owner : AttachmentOwner) (path name : String) : Prop where
  joined : path = owner.directory ++ "/" ++ name
  place : MediaPath.ofText path = MediaPath.ofText owner.directory ++ [name]
  named : name ≠ ""
  notDot : name ≠ "."
  notParent : name ≠ ".."
  clean : ∀ c ∈ ['/', '\\', '\x00'], c ∉ name.toList
  shown : ∀ attachment : Attachment, attachment.path = some path → attachment.fileName = some name

theorem holds_named (owner : AttachmentOwner) {name : String}
    (fits : Attachment.isFileName name = true) :
    owner.HoldsNamed (owner.storagePath name) name := by
  obtain ⟨named, notDot, notParent, clean⟩ := (Attachment.is_file_name_iff name).1 fits
  refine ⟨rfl, ?_, named, notDot, notParent, clean, ?_⟩
  · rw [storage_path_eq, of_text_directory]
    exact MediaPath.of_text_append (fun _ member => owner.is_component_of_directory member)
      (is_component_of_file_name fits)
  · intro attachment stored
    exact attachment.file_name_of_path fits stored

end AttachmentOwner

/-! ## The path that is found -/

/-- A path for a file of the owner: the one asked for, or where something stands there, the one with
the least number at which nothing does. The number is at most one more than there are things in the
tree. -/
inductive MediaTree.IsFirstFree (tree : MediaTree) (owner : AttachmentOwner) (name : String) :
    String → Prop
  | itself : tree.has (owner.storagePath name) = false →
      IsFirstFree tree owner name (owner.storagePath name)
  | numbered {stem suffix : String} {number : Nat} : tree.has (owner.storagePath name) = true →
      Divides name stem suffix →
      1 ≤ number → number ≤ tree.files.length + tree.directories.length + 1 →
      tree.has (owner.storagePath (stem ++ "_" ++ toString number ++ suffix)) = false →
      (∀ smaller, 1 ≤ smaller → smaller < number →
        tree.has (owner.storagePath (stem ++ "_" ++ toString smaller ++ suffix)) = true) →
      IsFirstFree tree owner name
        (owner.storagePath (stem ++ "_" ++ toString number ++ suffix))

namespace MediaTree

variable (tree : MediaTree) (owner : AttachmentOwner) {name : String}
  (fits : Attachment.isFileName name = true)

include fits

theorem numbered_storage_path (number : Nat) :
    numbered (owner.storagePath name) number = owner.storagePath (numberedName name number) := by
  have some : owner.directories ≠ [] := by simp [AttachmentOwner.directories]
  rw [owner.storage_path_eq, owner.storage_path_eq,
    numbered_to_text owner.directories some (is_component_of_file_name fits)]

/-- The path is the one asked for, or the first with a number that is free. -/
theorem free_path_is_first_free :
    tree.IsFirstFree owner name (tree.freePath (owner.storagePath name)) := by
  cases taken : tree.has (owner.storagePath name) with
  | false =>
      have itself : tree.freePath (owner.storagePath name) = owner.storagePath name := by
        simp [freePath, taken]
      rw [itself]
      exact .itself taken
  | true =>
      obtain ⟨stem, suffix, divides⟩ := exists_divides name
      have some : owner.directories ≠ [] := by simp [AttachmentOwner.directories]
      have asked := taken
      rw [owner.storage_path_eq] at asked
      obtain ⟨number, positive, within, found, free, standing⟩ := first_free_number some
        (fun _ member => owner.is_component_of_directory member)
        (is_component_of_file_name fits) tree asked
      rw [← owner.storage_path_eq] at found free standing
      simp only [numbered_storage_path owner fits, divides.numbered_name] at found free standing
      rw [found]
      exact .numbered taken divides positive within free standing

/-- The path keeps to the directory of the owner, whatever number it has. -/
theorem IsFirstFree.exists_named {tree : MediaTree} {owner : AttachmentOwner} {path : String}
    (first : tree.IsFirstFree owner name path) : ∃ last, owner.HoldsNamed path last := by
  cases first with
  | itself => exact ⟨name, owner.holds_named fits⟩
  | numbered _ divides =>
      rw [← divides.numbered_name]
      exact ⟨_, owner.holds_named (Attachment.is_file_name_numbered fits _)⟩

end MediaTree

/-- A file goes to a path where nothing stands, to the first one there is, right in the directory
of its owner and in that of no one else. -/
theorem new_files_are_placed_with_their_owner {given name : String}
    (accepted : Attachment.checkFileName given = .ok name) (tree : MediaTree)
    (owner : AttachmentOwner) :
    tree.has (tree.freePath (owner.storagePath name)) = false ∧
    tree.IsFirstFree owner name (tree.freePath (owner.storagePath name)) ∧
    (∃ last, owner.HoldsNamed (tree.freePath (owner.storagePath name)) last) ∧
    ∀ (other : AttachmentOwner) (path : MediaPath), MediaPath.ofText owner.directory <+: path →
      MediaPath.ofText other.directory <+: path → owner = other := by
  have fits : Attachment.isFileName name = true := by
    unfold Attachment.checkFileName at accepted
    dsimp only at accepted
    split at accepted
    · rename_i fits
      rw [← Except.ok.inj accepted]
      exact fits
    · cases accepted
  have first := tree.free_path_is_first_free owner fits
  refine ⟨(owner.holds_free_path fits tree).2, first, first.exists_named fits, ?_⟩
  intro other path own others
  exact AttachmentOwner.eq_of_common_path own others

def MediaTree.twoOfThem : MediaTree where
  files :=
    [(["attachments", "company_files", "3", "terms.txt"], []),
      (["attachments", "company_files", "3", "terms_1.txt"], [])]
  directories := [["attachments"], ["attachments", "company_files"],
    ["attachments", "company_files", "3"]]

theorem third_file_is_numbered :
    Attachment.checkFileName " terms.txt " = .ok "terms.txt" ∧
      MediaTree.twoOfThem.freePath ((AttachmentOwner.company 3).storagePath "terms.txt") =
        "attachments/company_files/3/terms_2.txt" ∧
      MediaTree.twoOfThem.has "attachments/company_files/3/terms_2.txt" = false := by
  have accepted : Attachment.checkFileName " terms.txt " = .ok "terms.txt" := by decide +kernel
  have found : MediaTree.twoOfThem.freePath ((AttachmentOwner.company 3).storagePath "terms.txt") =
      "attachments/company_files/3/terms_2.txt" := by decide +kernel
  have free := (new_files_are_placed_with_their_owner accepted MediaTree.twoOfThem (.company 3)).1
  rw [found] at free
  exact ⟨accepted, found, free⟩

end SupplyCatalog
