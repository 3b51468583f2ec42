import Mathlib.Data.List.Basic
import Mathlib.Data.String.Basic
import SupplyCatalog.Media.Tree
import SupplyCatalog.Proofs.Digits
import SupplyCatalog.Store.Attachment
import SupplyCatalog.Store.Company

/-!
# Texts of media paths

A path whose components are proper names is read back from its text. The paths at which images and
attached files are kept are of this kind, and a number behind the name does not change that.
-/

namespace SupplyCatalog

namespace Text

variable {α : Type} {isMark : α → Bool}

theorem split_where_eq (isMark : α → Bool) (items : List α) :
    splitWhere isMark items = items.splitOnP isMark := by
  induction items with
  | nil => rfl
  | cons item rest induction =>
      rw [splitWhere, List.splitOnP_cons_eq_if_modifyHead, induction]
      cases split : rest.splitOnP isMark with
      | nil => exact absurd split (List.splitOnP_ne_nil isMark rest)
      | cons first others => rfl

theorem split_last_none {items : List α} (unmarked : ∀ item ∈ items, isMark item = false) :
    splitLast? isMark items = none := by
  induction items with
  | nil => rfl
  | cons item rest induction =>
      have later := induction fun other member => unmarked other (List.mem_cons_of_mem item member)
      simp [splitLast?, later, unmarked item List.mem_cons_self]

theorem split_last_append (before : List α) {mark : α} {after : List α}
    (marks : isMark mark = true) (unmarked : ∀ item ∈ after, isMark item = false) :
    splitLast? isMark (before ++ mark :: after) = some (before, after) := by
  induction before with
  | nil => simp [splitLast?, split_last_none unmarked, marks]
  | cons item rest induction => simp [splitLast?, induction]

theorem unmarked_of_split_last_none {items : List α} (split : splitLast? isMark items = none) :
    ∀ item ∈ items, isMark item = false := by
  induction items with
  | nil => simp
  | cons item rest induction =>
      rw [splitLast?] at split
      cases later : splitLast? isMark rest with
      | some pieces => simp [later] at split
      | none =>
          have first : isMark item = false := by simpa [later] using split
          exact List.forall_mem_cons.2 ⟨first, induction later⟩

theorem eq_append_of_split_last {items before after : List α}
    (split : splitLast? isMark items = some (before, after)) :
    ∃ mark, isMark mark = true ∧ items = before ++ mark :: after ∧
      ∀ item ∈ after, isMark item = false := by
  induction items generalizing before with
  | nil => simp [splitLast?] at split
  | cons item rest induction =>
      rw [splitLast?] at split
      cases later : splitLast? isMark rest with
      | none =>
          rw [later] at split
          cases marks : isMark item with
          | false => simp [marks] at split
          | true =>
              simp only [marks, if_true, Option.some.injEq, Prod.mk.injEq] at split
              rcases split with ⟨rfl, rfl⟩
              exact ⟨item, marks, rfl, unmarked_of_split_last_none later⟩
      | some pieces =>
          rw [later] at split
          simp only [Option.some.injEq, Prod.mk.injEq] at split
          rcases split with ⟨rfl, rfl⟩
          obtain ⟨mark, marks, joined, unmarked⟩ := induction later
          refine ⟨mark, marks, ?_, unmarked⟩
          rw [joined, List.cons_append]

/-- No character has more than four bytes. -/
theorem utf8_byte_size_le (text : String) : text.utf8ByteSize ≤ 4 * text.toList.length := by
  have chars (chars : List Char) : String.utf8Len chars ≤ 4 * chars.length := by
    induction chars with
    | nil => simp
    | cons c rest induction =>
        have four := c.utf8Size_le_four
        simp only [String.utf8Len_cons, List.length_cons]
        omega
  have bytes := chars text.toList
  rw [← String.utf8ByteSize_ofList, String.ofList_toList] at bytes
  exact bytes

theorem unmarked_iff {mark : Char} {chars : List Char} :
    (∀ c ∈ chars, (c == mark) = false) ↔ mark ∉ chars := by
  constructor
  · intro unmarked member
    simpa using unmarked mark member
  · intro absent c member
    rw [beq_eq_false_iff_ne]
    rintro rfl
    exact absent member

end Text

/-! ## Paths of proper names -/

namespace MediaPath

/-- A component that stays one when a path is read from its text. -/
structure IsComponent (component : String) : Prop where
  named : component ≠ ""
  notDot : component ≠ "."
  noSlash : '/' ∉ component.toList

/-- A path below the root, no component of which leads up again. -/
structure IsRelative (path : MediaPath) : Prop where
  some : path ≠ []
  proper : ∀ component ∈ path, IsComponent component
  noParent : ".." ∉ path

theorem of_text_to_text {path : MediaPath} (some : path ≠ [])
    (proper : ∀ component ∈ path, IsComponent component) : ofText (toText path) = path := by
  have pieces : Text.splitSlashes (toText path) = path := by
    have clean : ∀ chars ∈ path.map String.toList, '/' ∉ chars := by
      intro chars member
      obtain ⟨component, there, rfl⟩ := List.mem_map.1 member
      exact (proper component there).noSlash
    rw [Text.splitSlashes, Text.split_where_eq, toText, String.toList_intercalate]
    have split := List.splitOn_intercalate '/' clean (by simpa using some)
    rw [List.splitOn_eq_splitOnP] at split
    rw [show "/".toList = ['/'] from rfl, split, List.map_map]
    simp [Function.comp_def]
  rw [ofText, pieces, List.filter_eq_self]
  intro component member
  simp [(proper component member).named, (proper component member).notDot]

/-- A path in a directory, for which both are proper. -/
theorem of_text_append {directories : MediaPath}
    (proper : ∀ component ∈ directories, IsComponent component) {name : String}
    (named : IsComponent name) :
    ofText (toText (directories ++ [name])) = directories ++ [name] := by
  apply of_text_to_text (by simp)
  intro component member
  rcases List.mem_append.1 member with directory | last
  · exact proper component directory
  · rw [List.mem_singleton.1 last]
    exact named

theorem to_text_append (directories : MediaPath) (some : directories ≠ []) (name : String) :
    toText (directories ++ [name]) = toText directories ++ "/" ++ name := by
  rw [toText, String.intercalate_append_of_ne_nil some (by simp), String.intercalate_singleton]
  rfl

end MediaPath

namespace MediaTree

def numberedName (name : String) (number : Nat) : String :=
  let (stem, suffix) := splitExtension name.toList
  String.ofList (stem ++ '_' :: (Nat.toDigits 10 number ++ suffix))

theorem split_extension_append (name : List Char) :
    (splitExtension name).1 ++ (splitExtension name).2 = name := by
  unfold splitExtension
  cases split : Text.splitLast? (· == '.') name with
  | none => simp
  | some pieces =>
      obtain ⟨mark, marks, joined, _⟩ := Text.eq_append_of_split_last split
      obtain rfl : mark = '.' := by simpa using marks
      cases empty : pieces.1.isEmpty with
      | true => simp [empty]
      | false => simp [empty, joined]

theorem mem_numbered_name {name : String} {number : Nat} {c : Char}
    (member : c ∈ (numberedName name number).toList) :
    c ∈ name.toList ∨ c = '_' ∨ c ∈ Nat.toDigits 10 number := by
  have whole := split_extension_append name.toList
  simp only [numberedName, String.toList_ofList, List.mem_append, List.mem_cons] at member
  rw [← whole, List.mem_append]
  rcases member with stem | underscore | digit | suffix
  · exact .inl (.inl stem)
  · exact .inr (.inl underscore)
  · exact .inr (.inr digit)
  · exact .inl (.inr suffix)

theorem is_component_numbered_name {name : String} (proper : MediaPath.IsComponent name)
    (number : Nat) : MediaPath.IsComponent (numberedName name number) := by
  have underscore : '_' ∈ (numberedName name number).toList := by simp [numberedName]
  constructor
  · intro empty
    rw [empty] at underscore
    simp at underscore
  · intro dot
    rw [dot] at underscore
    simp at underscore
  · intro slash
    rcases mem_numbered_name slash with inName | isUnderscore | isDigit
    · exact proper.noSlash inName
    · simp at isUnderscore
    · exact absurd (Nat.isDigit_of_mem_toDigits (by decide) (by decide) isDigit) (by decide)

theorem numbered_to_text (directories : MediaPath) (some : directories ≠ []) {name : String}
    (proper : MediaPath.IsComponent name) (number : Nat) :
    numbered (MediaPath.toText (directories ++ [name])) number =
      MediaPath.toText (directories ++ [numberedName name number]) := by
  have unmarked : ∀ c ∈ name.toList, (c == '/') = false := Text.unmarked_iff.2 proper.noSlash
  have split : splitName (MediaPath.toText (directories ++ [name])).toList =
      ((MediaPath.toText directories).toList ++ ['/'], name.toList) := by
    rw [MediaPath.to_text_append directories some, String.toList_append, String.toList_append,
      List.append_assoc]
    unfold splitName
    rw [show "/".toList ++ name.toList = '/' :: name.toList from rfl,
      Text.split_last_append _ (by rfl) unmarked]
  rw [numbered, split, MediaPath.to_text_append directories some]
  simp [numberedName, ← String.toList_inj]

/-- Where a file is put when something may stand at the path: in the same directory, under a proper
name. -/
theorem free_path_to_text (tree : MediaTree) (directories : MediaPath) (some : directories ≠ [])
    {name : String} (proper : MediaPath.IsComponent name) :
    ∃ other, MediaPath.IsComponent other ∧
      tree.freePath (MediaPath.toText (directories ++ [name])) =
        MediaPath.toText (directories ++ [other]) := by
  unfold freePath
  by_cases taken : tree.has (MediaPath.toText (directories ++ [name])) = true
  · simp only [taken, if_true]
    cases found : List.find? _ _ with
    | none => exact ⟨name, proper, rfl⟩
    | some candidate =>
        obtain ⟨index, _, rfl⟩ := List.mem_map.1 (List.mem_of_find?_eq_some found)
        exact ⟨_, is_component_numbered_name proper (index + 1),
          numbered_to_text directories some proper (index + 1)⟩
  · simp only [taken]
    exact ⟨name, proper, rfl⟩

end MediaTree

/-! ## Images and attached files -/

theorem is_component_of_file_name {name : String} (fits : Attachment.isFileName name = true) :
    MediaPath.IsComponent name := by
  simp only [Attachment.isFileName, Bool.and_eq_true, bne_iff_ne, Bool.not_eq_true',
    List.any_eq_false] at fits
  rcases fits with ⟨⟨⟨named, notDot⟩, _⟩, clean⟩
  refine ⟨named, notDot, ?_⟩
  intro slash
  exact clean '/' slash (by decide)

theorem eq_of_key_eq {left right : Int} (same : toString left = toString right) :
    left = right := by
  have chars := congrArg String.toList same
  rw [Int.toString_eq_repr, Int.toString_eq_repr, Int.repr_eq_if, Int.repr_eq_if] at chars
  have digits {number : Nat} : '-' ∉ number.repr.toList := by
    rw [Nat.toList_repr]
    intro hyphen
    exact absurd (Nat.isDigit_of_mem_toDigits (by decide) (by decide) hyphen) (by decide)
  by_cases positive : 0 ≤ left
  · by_cases otherPositive : 0 ≤ right
    · rw [if_pos positive, if_pos otherPositive, Nat.toList_repr, Nat.toList_repr] at chars
      have numbers := Number.eq_of_to_digits_eq chars
      omega
    · rw [if_pos positive, if_neg otherPositive] at chars
      have hyphen : '-' ∈ left.toNat.repr.toList := by simp [chars]
      exact absurd hyphen digits
  · by_cases otherPositive : 0 ≤ right
    · rw [if_neg positive, if_pos otherPositive] at chars
      have hyphen : '-' ∈ right.toNat.repr.toList := by simp [← chars]
      exact absurd hyphen digits
    · rw [if_neg positive, if_neg otherPositive, String.toList_append,
        String.toList_append] at chars
      have behind := List.append_cancel_left chars
      rw [Nat.toList_repr, Nat.toList_repr] at behind
      have numbers := Number.eq_of_to_digits_eq behind
      omega

theorem no_slash_in_key (pk : Int) : '/' ∉ (toString pk).toList := by
  intro slash
  rcases Number.mem_whole slash with hyphen | digit
  · exact absurd hyphen (by decide)
  · exact absurd digit (by decide)

theorem is_component_key (pk : Int) : MediaPath.IsComponent (toString pk) := by
  refine ⟨?_, ?_, no_slash_in_key pk⟩
  · rw [Int.toString_eq_repr, Int.repr_eq_if]
    split
    · exact Nat.repr_ne_empty
    · simp
  · intro dot
    have member : '.' ∈ (toString pk).toList := by simp [dot]
    rcases Number.mem_whole member with hyphen | digit
    · exact absurd hyphen (by decide)
    · exact absurd digit (by decide)

namespace CompanyImage

theorem to_list_file_name (pk : Int) (format : ImageFormat) :
    (fileName pk format).toList = "company_".toList ++ ((toString pk).toList ++
      '_' :: ("image.".toList ++ format.fileExtension.toList)) := by
  have parts : fileName pk format =
      "company_" ++ toString pk ++ "_image." ++ format.fileExtension := rfl
  rw [parts, String.toList_append, String.toList_append, String.toList_append]
  simp

theorem is_component_file_name (pk : Int) (format : ImageFormat) :
    MediaPath.IsComponent (fileName pk format) := by
  have first : 'c' ∈ (fileName pk format).toList := by
    rw [to_list_file_name]
    exact List.mem_append_left _ (by decide)
  constructor
  · intro empty
    rw [empty] at first
    exact absurd first (by decide)
  · intro dot
    rw [dot] at first
    exact absurd first (by decide)
  · have extension : '/' ∉ '_' :: ("image.".toList ++ format.fileExtension.toList) := by
      cases format <;> decide
    rw [to_list_file_name]
    simp only [List.mem_append, not_or]
    exact ⟨by decide, no_slash_in_key pk, extension⟩

theorem of_text_path (pk : Int) (format : ImageFormat) :
    MediaPath.ofText (path pk format) = [Company.imageDirectory, fileName pk format] := by
  have directory : ∀ component ∈ [Company.imageDirectory], MediaPath.IsComponent component := by
    intro component member
    rw [List.mem_singleton.1 member]
    exact ⟨by decide, by decide, by decide⟩
  exact MediaPath.of_text_append directory (is_component_file_name pk format)

/-- A name belongs to one company and one format. -/
theorem file_name_injective {pk other : Int} {format otherFormat : ImageFormat}
    (same : fileName pk format = fileName other otherFormat) :
    pk = other ∧ format = otherFormat := by
  have noMarkInKey (key : Int) : '_' ∉ (toString key).toList := by
    intro mark
    rcases Number.mem_whole mark with hyphen | digit
    · exact absurd hyphen (by decide)
    · exact absurd digit (by decide)
  have noMarkBehind (format : ImageFormat) :
      '_' ∉ "image.".toList ++ format.fileExtension.toList := by
    cases format <;> decide
  have chars := congrArg String.toList same
  rw [to_list_file_name, to_list_file_name] at chars
  have behind := List.append_cancel_left chars
  obtain ⟨keys, _, endings⟩ :=
    (List.append_cons_inj_of_notMem (noMarkInKey pk) (noMarkBehind format)).1 behind
  refine ⟨eq_of_key_eq (String.toList_inj.1 keys), ?_⟩
  have extensions := List.append_cancel_left endings
  revert extensions
  cases format <;> cases otherFormat <;> decide

end CompanyImage

namespace AttachmentOwner

variable (owner : AttachmentOwner)

def directories : MediaPath := ["attachments", owner.kind.directory, toString owner.pk]

theorem is_component_of_directory {component : String} (member : component ∈ owner.directories) :
    MediaPath.IsComponent component := by
  simp only [directories, List.mem_cons, List.not_mem_nil, or_false] at member
  rcases member with rfl | rfl | rfl
  · exact ⟨by decide, by decide, by decide⟩
  · cases owner.kind <;> exact ⟨by decide, by decide, by decide⟩
  · exact is_component_key owner.pk

theorem storage_path_eq (name : String) :
    owner.storagePath name = MediaPath.toText (owner.directories ++ [name]) := by
  have parts : owner.storagePath name =
      "attachments/" ++ (owner.kind.directory ++ "/" ++ toString owner.pk) ++ "/" ++ name := rfl
  rw [parts, MediaPath.to_text_append _ (by simp [directories])]
  simp [directories, MediaPath.toText]

end AttachmentOwner

end SupplyCatalog
