import SupplyCatalog.Proofs.Base64Text
import SupplyCatalog.Proofs.FieldRule
import SupplyCatalog.Proofs.Form

/-!
# A file or a link

A body that attaches something names an owner and holds a file, a link or both. The two keys of a
file stand together: of a body that gives one of them, either both are right and their file is taken
or one of them is reported. That there is neither a file nor a link is only said of a body in which
nothing else is wrong.
-/

namespace SupplyCatalog.AttachmentInput

/-! ## Names and contents -/

/-- Text that is fit to name a file when the blanks around it are cut off. -/
inductive IsName : Json → String → Prop
  | text {text : String} :
      Attachment.isFileName (Text.trim text) = true → IsName (.string text) (Text.trim text)

/-- The bytes in base64, but for blanks around them. -/
inductive IsContent : Json → Bytes → Prop
  | text {text : String} {bytes : Bytes} :
      Text.trim text = String.ofList (Text.Base64.encode bytes) → IsContent (.string text) bytes

theorem file_name_eq_ok_iff (json : Json) (name : String) :
    fileName json = .ok name ↔ IsName json name := by
  unfold fileName Attachment.checkFileName
  constructor
  · intro read
    dsimp only at read
    split at read
    · rename_i fits
      obtain rfl := Except.ok.inj read
      cases json with
      | string text => exact .text fits
      -- What is no text counts as an empty name, which names no file.
      | _ => cases fits
    · cases read
  · rintro ⟨fits⟩
    exact if_pos fits

theorem file_content_eq_ok_iff (json : Json) (bytes : Bytes) :
    Value.fileContent json = .ok bytes ↔ IsContent json bytes := by
  have decoded (text : String) :
      Text.Base64.decode? (Text.trimChars text.toList) = some bytes ↔
        Text.trim text = String.ofList (Text.Base64.encode bytes) := by
    rw [Text.Base64.decode_eq_some_iff, Text.trim, String.ofList_inj]
  constructor
  · intro read
    cases json with
    | string text =>
        refine .text ((decoded text).1 ?_)
        unfold Value.fileContent at read
        dsimp only at read
        split at read
        · rename_i found
          rw [found, Except.ok.inj read]
        · cases read
    | _ => cases read
  · rintro ⟨written⟩
    unfold Value.fileContent
    simp only [(decoded _).2 written]

theorem file_name_refuses_for :
    Value.RefusesFor [.rule "Invalid attachment file name"] fileName := by
  intro json cause refused
  unfold fileName Attachment.checkFileName at refused
  dsimp only at refused
  split at refused
  · cases refused
  · cases refused
    exact List.mem_singleton_self _

theorem file_content_refuses_for :
    Value.RefusesFor [.notAString, .rule "Invalid base64 file content"] Value.fileContent := by
  intro json cause refused
  cases json with
  | string text =>
      unfold Value.fileContent at refused
      dsimp only at refused
      split at refused
      · cases refused
      · cases refused
        simp
  | _ =>
      cases refused
      simp

/-! ## The file of a body -/

section File

variable (fields : List (String × Json))

def IsGiven (key : String) : Prop := ∃ json, Json.lookup fields key = some json ∧ json ≠ .null

def NamesFile (name : String) : Prop :=
  ∃ json, Json.lookup fields "filename" = some json ∧ IsName json name

def HoldsBytes (bytes : Bytes) : Prop :=
  ∃ json, Json.lookup fields "content" = some json ∧ IsContent json bytes

inductive IsFileOf : Option UploadedFile → Prop
  | nothing : ¬IsGiven fields "filename" → ¬IsGiven fields "content" → IsFileOf none
  | whole {name : String} {bytes : Bytes} :
      NamesFile fields name → HoldsBytes fields bytes → IsFileOf (some ⟨name, bytes⟩)

variable {fields}

theorem is_present_iff (key : String) :
    isPresent (Json.lookup fields key) = true ↔ IsGiven fields key := by
  unfold IsGiven
  cases Json.lookup fields key with
  | none => simp [isPresent]
  | some json => cases json <;> simp [isPresent]

theorem NamesFile.is_given {name : String} (names : NamesFile fields name) :
    IsGiven fields "filename" := by
  obtain ⟨json, there, isName⟩ := names
  refine ⟨json, there, ?_⟩
  rintro rfl
  cases isName

theorem HoldsBytes.is_given {bytes : Bytes} (holds : HoldsBytes fields bytes) :
    IsGiven fields "content" := by
  obtain ⟨json, there, isContent⟩ := holds
  refine ⟨json, there, ?_⟩
  rintro rfl
  cases isContent

theorem NamesFile.unique {name other : String} (names : NamesFile fields name)
    (again : NamesFile fields other) : name = other := by
  obtain ⟨_, there, ⟨_⟩⟩ := names
  obtain ⟨_, same, ⟨_⟩⟩ := again
  cases there.symm.trans same
  rfl

theorem HoldsBytes.unique {bytes other : Bytes} (holds : HoldsBytes fields bytes)
    (again : HoldsBytes fields other) : bytes = other := by
  obtain ⟨_, there, ⟨written⟩⟩ := holds
  obtain ⟨_, same, ⟨rewritten⟩⟩ := again
  cases there.symm.trans same
  exact Text.Base64.encode_injective (String.ofList_injective (written.symm.trans rewritten))

/-- A key that has to be given is read as what stands there, or one thing is wrong about it. -/
inductive ReadsKey {α : Type} (key : String) (stands : α → Prop) : Noted (Option α) → Prop
  | value {value : α} : stands value → ReadsKey key stands ⟨some value, []⟩
  | wrong {cause : Cause} : (∀ value, ¬stands value) → ReadsKey key stands ⟨none, [⟨key, cause⟩]⟩

theorem reads_key {α : Type} (key : String) {read : Json → Checked α} {rule : Json → α → Prop}
    (accepts : ∀ json value, read json = .ok value ↔ rule json value)
    (nothing : ∀ value, ¬rule .null value) :
    ReadsKey key (fun value => ∃ json, Json.lookup fields key = some json ∧ rule json value)
      (Payload.field ⟨fields, false⟩ key true read) := by
  have raw : Payload.raw ⟨fields, false⟩ key = Json.lookup fields key := rfl
  unfold Payload.field
  rw [raw]
  cases Json.lookup fields key with
  | none => exact .wrong (by simp)
  | some json =>
    cases json with
    | null => exact .wrong (by simpa using nothing)
    | _ =>
      dsimp only
      cases outcome : read _ with
      | ok value => exact .value ⟨_, rfl, (accepts _ _).1 outcome⟩
      | error cause => exact .wrong (by simp [← accepts, outcome])

/-- All that may come of reading the file of a body. -/
inductive ReadsFile (fields : List (String × Json)) : Noted (Option UploadedFile) → Prop
  | nothing : ¬IsGiven fields "filename" → ¬IsGiven fields "content" → ReadsFile fields ⟨none, []⟩
  | whole {name : String} {bytes : Bytes} : NamesFile fields name → HoldsBytes fields bytes →
      ReadsFile fields ⟨some ⟨name, bytes⟩, []⟩
  | noName {bytes : Bytes} {cause : Cause} : (∀ name, ¬NamesFile fields name) →
      HoldsBytes fields bytes → ReadsFile fields ⟨none, [⟨"filename", cause⟩]⟩
  | noBytes {name : String} {cause : Cause} : NamesFile fields name →
      (∀ bytes, ¬HoldsBytes fields bytes) → ReadsFile fields ⟨none, [⟨"content", cause⟩]⟩
  | neither {first second : Cause} : (IsGiven fields "filename" ∨ IsGiven fields "content") →
      (∀ name, ¬NamesFile fields name) → (∀ bytes, ¬HoldsBytes fields bytes) →
        ReadsFile fields ⟨none, [⟨"filename", first⟩, ⟨"content", second⟩]⟩

theorem reads_file (fields : List (String × Json)) :
    ReadsFile fields (readFile ⟨fields, false⟩) := by
  have asked : (isPresent (Payload.raw ⟨fields, false⟩ "filename") ||
      isPresent (Payload.raw ⟨fields, false⟩ "content")) = true ↔
        IsGiven fields "filename" ∨ IsGiven fields "content" := by
    rw [Bool.or_eq_true]
    exact or_congr (is_present_iff _) (is_present_iff _)
  by_cases given : IsGiven fields "filename" ∨ IsGiven fields "content"
  case neg =>
    have unread : readFile ⟨fields, false⟩ = ⟨none, []⟩ := if_neg (mt asked.1 given)
    rw [unread]
    exact .nothing (fun name => given (.inl name)) fun content => given (.inr content)
  have name : ReadsKey "filename" (NamesFile fields)
      (Payload.field ⟨fields, false⟩ "filename" true fileName) :=
    reads_key "filename" file_name_eq_ok_iff (by rintro _ ⟨⟩)
  have content : ReadsKey "content" (HoldsBytes fields)
      (Payload.field ⟨fields, false⟩ "content" true Value.fileContent) :=
    reads_key "content" file_content_eq_ok_iff (by rintro _ ⟨⟩)
  unfold readFile
  rw [if_pos (asked.2 given)]
  generalize Payload.field ⟨fields, false⟩ "filename" true fileName = first at name
  generalize Payload.field ⟨fields, false⟩ "content" true Value.fileContent = second at content
  cases name with
  | value named =>
      cases content with
      | value held => exact .whole named held
      | wrong unheld => exact .noBytes named unheld
  | wrong unnamed =>
      cases content with
      | value held => exact .noName unnamed held
      | wrong unheld => exact .neither given unnamed unheld

theorem read_file_eq_iff (file : Option UploadedFile) :
    readFile ⟨fields, false⟩ = ⟨file, []⟩ ↔ IsFileOf fields file := by
  have reads := reads_file fields
  generalize readFile ⟨fields, false⟩ = noted at reads
  constructor
  · rintro rfl
    cases reads with
    | nothing name content => exact .nothing name content
    | whole named held => exact .whole named held
  · intro isFile
    cases isFile with
    | nothing noName noContent =>
        cases reads with
        | nothing => rfl
        | whole named => exact (noName named.is_given).elim
        | noName _ held => exact (noContent held.is_given).elim
        | noBytes named => exact (noName named.is_given).elim
        | neither given => exact (given.elim noName noContent).elim
    | whole named held =>
        cases reads with
        | nothing noName => exact (noName named.is_given).elim
        | whole other others => rw [named.unique other, held.unique others]
        | noName unnamed => exact (unnamed _ named).elim
        | noBytes _ unheld => exact (unheld _ held).elim
        | neither _ unnamed => exact (unnamed _ named).elim

end File

/-! ## The other fields -/

/-- A field of which a default is kept when nothing is given. -/
def defaulted {α : Type} (key : String) (isRequired : Bool) (read : Json → Checked α) (default : α)
    (held : AttachmentInput → α) : FormField AttachmentInput where
  key
  isRequired
  Given := α
  read := Value.present read
  Held := α
  keep := (·.getD default)
  held

def form (ownerField : String) : Form AttachmentInput :=
  [defaulted ownerField true Value.pk 0 (·.owner),
    defaulted "link" false (Value.address Url.linkSchemes 2000) "" (·.link),
    defaulted "comment" false (Value.text 100 true) "" (·.comment)]

variable (ownerField : String) (fields : List (String × Json))

theorem read_fields_violations (payload : Payload) :
    (readFields ownerField payload).violations =
      (form ownerField).violations payload ++ (readFile payload).violations := by
  unfold readFields
  simp only [Payload.pk, Payload.link, Payload.text, Payload.field_eq]
  change _ ++ (_ ++ (_ ++ ((readFile payload).violations ++ []))) =
    (_ ++ (_ ++ (_ ++ []))) ++ (readFile payload).violations
  simp only [List.append_nil, List.append_assoc]
  rfl

theorem read_fields_held (payload : Payload) :
    ∀ field ∈ form ownerField,
      field.held (readFields ownerField payload).value = field.kept (payload.raw field.key) := by
  unfold readFields
  simp only [Payload.pk, Payload.link, Payload.text, Payload.field_eq]
  simp only [form, List.forall_mem_cons]
  exact ⟨rfl, rfl, rfl, List.forall_mem_nil _⟩

/-- Nothing is wrong under any other key than the two of a file. -/
def RestIsValid : Prop :=
  ∀ field ∈ form ownerField, field.fault false (Json.lookup fields field.key) = none

def NamesLink (link : String) : Prop :=
  ∃ json, Json.lookup fields "link" = some json ∧
    Value.address Url.linkSchemes 2000 json = .ok link

/-- What a body is read as that attaches something. -/
structure IsReadAs (input : AttachmentInput) : Prop where
  valid : RestIsValid ownerField fields
  held : ∀ field ∈ form ownerField, field.held input = field.kept (Json.lookup fields field.key)
  file : IsFileOf fields input.file
  attached : input.file ≠ none ∨ input.link ≠ ""

/-- Nothing is wrong about a body but that nothing is attached. -/
structure LacksAll : Prop where
  valid : RestIsValid ownerField fields
  noName : ¬IsGiven fields "filename"
  noContent : ¬IsGiven fields "content"
  noLink : ∀ link, NamesLink fields link → link = ""

def errors : FieldErrors := ServiceError.fieldErrors (parse ownerField (.object fields))

variable {ownerField fields}

theorem given_link_eq_some_iff (link : String) :
    Payload.given (Value.present (Value.address Url.linkSchemes 2000))
        (Json.lookup fields "link") = some link ↔ NamesLink fields link := by
  have present (json : Json) : Value.present (Value.address Url.linkSchemes 2000) json = .ok link ↔
      Value.address Url.linkSchemes 2000 json = .ok link := by
    cases json with
    | null => exact iff_of_false (by rintro ⟨⟩) (by rintro ⟨⟩)
    | _ => rfl
  have read (outcome : Checked String) : outcome.toOption = some link ↔ outcome = .ok link := by
    cases outcome <;> simp [Except.toOption]
  simp only [Payload.given, Option.bind_eq_some_iff, read, present]
  rfl

theorem held_link_eq_empty_iff {input : AttachmentInput}
    (held : ∀ field ∈ form ownerField,
      field.held input = field.kept (Json.lookup fields field.key)) :
    input.link = "" ↔ ∀ link, NamesLink fields link → link = "" := by
  simp only [form, List.forall_mem_cons] at held
  have kept : input.link = (Payload.given (Value.present (Value.address Url.linkSchemes 2000))
      (Json.lookup fields "link")).getD "" := held.2.1
  simp only [kept, ← given_link_eq_some_iff]
  cases Payload.given _ _ with
  | none => simp
  | some link => simp

theorem held_unique {input other : AttachmentInput} (file : input.file = other.file)
    (same : ∀ field ∈ form ownerField, field.held input = field.held other) : input = other := by
  simp only [form, List.forall_mem_cons] at same
  obtain ⟨owner, link, comment, _⟩ := same
  cases input
  cases other
  cases owner
  cases link
  cases comment
  cases file
  rfl

/-- Without a violation the fields of a body are what they have to be, and so is its file. -/
theorem read_fields_eq_iff (input : AttachmentInput) :
    readFields ownerField ⟨fields, false⟩ = ⟨input, []⟩ ↔
      RestIsValid ownerField fields ∧
        (∀ field ∈ form ownerField,
          field.held input = field.kept (Json.lookup fields field.key)) ∧
        IsFileOf fields input.file := by
  have held := read_fields_held ownerField ⟨fields, false⟩
  have violations := read_fields_violations ownerField ⟨fields, false⟩
  have valid : RestIsValid ownerField fields ↔ (form ownerField).violations ⟨fields, false⟩ = [] :=
    (Form.violations_eq_nil_iff ⟨fields, false⟩).symm
  rw [valid, ← read_file_eq_iff]
  constructor
  · intro read
    rw [read] at held violations
    obtain ⟨rest, file⟩ := List.append_eq_nil_iff.1 violations.symm
    have same : input.file = (readFile ⟨fields, false⟩).value :=
      (congrArg (·.value.file) read).symm
    exact ⟨rest, held, congrArg₂ Noted.mk same.symm file⟩
  · rintro ⟨rest, wanted, file⟩
    rw [rest, file] at violations
    have value : (readFields ownerField ⟨fields, false⟩).value = input := by
      apply held_unique (congrArg Noted.value file)
      intro field member
      rw [held field member]
      exact (wanted field member).symm
    exact congrArg₂ Noted.mk value violations

theorem lacks_all_iff : LacksAll ownerField fields ↔
    ∃ input, readFields ownerField ⟨fields, false⟩ = ⟨input, []⟩ ∧ input.file = none ∧
      input.link = "" := by
  constructor
  · rintro ⟨valid, noName, noContent, noLink⟩
    have file : readFile ⟨fields, false⟩ = ⟨none, []⟩ :=
      (read_file_eq_iff none).2 (.nothing noName noContent)
    have held := read_fields_held ownerField ⟨fields, false⟩
    refine ⟨(readFields ownerField ⟨fields, false⟩).value, ?_, ?_, ?_⟩
    · rw [read_fields_eq_iff]
      refine ⟨valid, held, ?_⟩
      exact (read_file_eq_iff _).1 (congrArg₂ Noted.mk rfl (congrArg Noted.violations file))
    · exact congrArg Noted.value file
    · exact (held_link_eq_empty_iff held).2 noLink
  · rintro ⟨input, read, noFile, noLink⟩
    obtain ⟨valid, held, isFile⟩ := (read_fields_eq_iff input).1 read
    rw [noFile] at isFile
    cases isFile with
    | nothing noName noContent =>
        exact ⟨valid, noName, noContent, (held_link_eq_empty_iff held).1 noLink⟩

theorem read_of_lacking (lacks : LacksAll ownerField fields) :
    (read ownerField ⟨fields, false⟩).violations = nothingAttached := by
  obtain ⟨input, same, noFile, noLink⟩ := lacks_all_iff.1 lacks
  unfold read
  rw [same]
  simp [noFile, noLink]

theorem read_of_not_lacking (some : ¬LacksAll ownerField fields) :
    read ownerField ⟨fields, false⟩ = readFields ownerField ⟨fields, false⟩ := by
  rw [lacks_all_iff] at some
  refine if_neg fun lacking => some ?_
  simp only [Bool.and_eq_true, List.isEmpty_iff, Option.isNone_iff_eq_none,
    decide_eq_true_eq] at lacking
  obtain ⟨⟨unviolated, noFile⟩, noLink⟩ := lacking
  exact ⟨_, congrArg (Noted.mk _) unviolated, noFile, noLink⟩

theorem is_read_as_iff (input : AttachmentInput) : IsReadAs ownerField fields input ↔
    readFields ownerField ⟨fields, false⟩ = ⟨input, []⟩ ∧
      (input.file ≠ none ∨ input.link ≠ "") := by
  rw [read_fields_eq_iff]
  constructor
  · rintro ⟨valid, held, isFile, attached⟩
    exact ⟨⟨valid, held, isFile⟩, attached⟩
  · rintro ⟨⟨valid, held, isFile⟩, attached⟩
    exact ⟨valid, held, isFile, attached⟩

theorem parse_eq_ok_iff (input : AttachmentInput) :
    parse ownerField (.object fields) = .ok input ↔ IsReadAs ownerField fields input := by
  change (read ownerField ⟨fields, false⟩).finish = _ ↔ _
  rw [Form.finish_eq_ok_iff, is_read_as_iff]
  by_cases lacks : LacksAll ownerField fields
  · refine iff_of_false ?_ ?_
    · intro accepted
      have unviolated := congrArg Noted.violations accepted
      rw [read_of_lacking lacks] at unviolated
      cases unviolated
    · rintro ⟨same, attached⟩
      obtain ⟨other, again, noFile, noLink⟩ := lacks_all_iff.1 lacks
      obtain rfl : input = other := congrArg Noted.value (same.symm.trans again)
      exact attached.elim (fun file => file noFile) fun link => link noLink
  · rw [read_of_not_lacking lacks]
    refine (and_iff_left_of_imp fun same => ?_).symm
    by_contra nothing
    obtain ⟨noFile, noLink⟩ := not_or.1 nothing
    exact lacks (lacks_all_iff.2 ⟨input, same, not_not.1 noFile, not_not.1 noLink⟩)

/-! ## What is reported -/

theorem errors_eq :
    errors ownerField fields =
      FieldErrors.ofViolations (read ownerField ⟨fields, false⟩).violations :=
  Form.field_errors_finish _

def ownCauses : List Cause :=
  [.missing, .null, .notAnInteger, .notAString, .blank, .tooLong 2000, .badUrl, .tooLong 100,
    .rule "Invalid attachment file name", .rule "Invalid base64 file content"]

theorem own_cause_of_field {α : Type} {payload : Payload} {key : String} {required : Bool}
    {read : Json → Checked α} {causes : List Cause} (refuses : Value.RefusesFor causes read)
    (own : ∀ cause ∈ causes, cause ∈ ownCauses) {violation : Violation}
    (member : violation ∈ (payload.field key required read).violations) :
    violation.cause ∈ ownCauses := by
  unfold Payload.field Payload.absent at member
  split at member
  · split at member
    · rw [List.mem_singleton.1 member]
      exact (by decide : Cause.missing ∈ ownCauses)
    · cases member
  · rw [List.mem_singleton.1 member]
    exact (by decide : Cause.null ∈ ownCauses)
  · rename_i json _ _
    cases outcome : read json with
    | ok value =>
        rw [outcome] at member
        cases member
    | error cause =>
        rw [outcome] at member
        rw [List.mem_singleton.1 member]
        exact own cause (refuses json cause outcome)

theorem own_cause_of_read_file {payload : Payload} {violation : Violation}
    (member : violation ∈ (readFile payload).violations) : violation.cause ∈ ownCauses := by
  unfold readFile at member
  split at member
  · rcases List.mem_append.1 member with name | later
    · exact own_cause_of_field file_name_refuses_for (by decide) name
    rcases List.mem_append.1 later with content | none
    · exact own_cause_of_field file_content_refuses_for (by decide) content
    · cases none
  · cases member

theorem own_cause_of_read_fields {payload : Payload} {violation : Violation}
    (member : violation ∈ (readFields ownerField payload).violations) :
    violation.cause ∈ ownCauses := by
  rcases List.mem_append.1 member with owner | later
  · exact own_cause_of_field Value.pk_refuses_for (by decide) owner
  rcases List.mem_append.1 later with link | later
  · exact own_cause_of_field (Value.address_refuses_for _ _) (by decide) link
  rcases List.mem_append.1 later with comment | later
  · exact own_cause_of_field (Value.text_refuses_for _ _) (by decide) comment
  rcases List.mem_append.1 later with file | none
  · exact own_cause_of_read_file file
  · cases none

/-- What is said about a body to which nothing is attached is said about no field by itself. -/
theorem reports_missing_iff {key message : String}
    (missing : (key, message) ∈ nothingAttached.map fun violation =>
      (violation.field, violation.message)) :
    (errors ownerField fields).Reports key message ↔ LacksAll ownerField fields := by
  have apart : ∀ cause ∈ ownCauses, ∀ violation ∈ nothingAttached,
      cause.message ≠ violation.message := by decide +kernel
  obtain ⟨violation, ofNothing, same⟩ := List.mem_map.1 missing
  obtain ⟨rfl, rfl⟩ := Prod.mk.inj same
  rw [errors_eq, FieldErrors.reports_of_violations_iff]
  by_cases lacks : LacksAll ownerField fields
  · rw [read_of_lacking lacks]
    exact iff_of_true ⟨violation, ofNothing, rfl, rfl⟩ lacks
  · rw [read_of_not_lacking lacks]
    refine iff_of_false ?_ lacks
    rintro ⟨other, recorded, _, alike⟩
    exact apart _ (own_cause_of_read_fields recorded) violation ofNothing alike

theorem file_violation_is_reported {violation : Violation}
    (wrong : violation ∈ (readFile ⟨fields, false⟩).violations) :
    (errors ownerField fields).contains violation.field = true := by
  have recorded : violation ∈ (readFields ownerField ⟨fields, false⟩).violations := by
    rw [read_fields_violations]
    exact List.mem_append_right _ wrong
  have some : ¬LacksAll ownerField fields := by
    intro lacks
    obtain ⟨_, read, _⟩ := lacks_all_iff.1 lacks
    rw [read] at recorded
    cases recorded
  rw [errors_eq, read_of_not_lacking some]
  exact FieldErrors.contains_of_violations recorded

theorem half_file_is_reported :
    (IsGiven fields "filename" → ¬IsGiven fields "content" →
      (errors ownerField fields).contains "content" = true) ∧
    (IsGiven fields "content" → ¬IsGiven fields "filename" →
      (errors ownerField fields).contains "filename" = true) := by
  have wrong : ∀ violation ∈ (readFile ⟨fields, false⟩).violations,
      (errors ownerField fields).contains violation.field = true :=
    fun _ => file_violation_is_reported
  have reads := reads_file fields
  generalize readFile ⟨fields, false⟩ = noted at reads wrong
  cases reads with
  | nothing noName noContent =>
      exact ⟨fun name => (noName name).elim, fun content => (noContent content).elim⟩
  | whole named held =>
      exact ⟨fun _ noContent => (noContent held.is_given).elim,
        fun _ noName => (noName named.is_given).elim⟩
  | noName _ held =>
      exact ⟨fun _ noContent => (noContent held.is_given).elim,
        fun _ _ => wrong ⟨"filename", _⟩ List.mem_cons_self⟩
  | noBytes named _ =>
      exact ⟨fun _ _ => wrong ⟨"content", _⟩ List.mem_cons_self,
        fun _ noName => (noName named.is_given).elim⟩
  | neither =>
      exact ⟨fun _ _ => wrong ⟨"content", _⟩ (List.mem_cons_of_mem _ List.mem_cons_self),
        fun _ _ => wrong ⟨"filename", _⟩ List.mem_cons_self⟩

theorem IsFileOf.exists_iff {file : Option UploadedFile} (isFile : IsFileOf fields file) :
    (file ≠ none ↔ IsGiven fields "filename") ∧ (file ≠ none ↔ IsGiven fields "content") := by
  cases isFile with
  | nothing noName noContent =>
      exact ⟨iff_of_false (not_not_intro rfl) noName, iff_of_false (not_not_intro rfl) noContent⟩
  | whole named held =>
      exact ⟨iff_of_true (by simp) named.is_given, iff_of_true (by simp) held.is_given⟩

/-- Bytes that are written in base64 are the bytes of the file. -/
theorem parse_written {text : String} {bytes : Bytes} (valid : RestIsValid ownerField fields)
    (name : Json.lookup fields "filename" = some (.string text))
    (fits : Attachment.isFileName (Text.trim text) = true)
    (content : Json.lookup fields "content" =
      some (.string (String.ofList (Text.Base64.encode bytes)))) :
    ∃ input, parse ownerField (.object fields) = .ok input ∧
      input.file = some ⟨Text.trim text, bytes⟩ := by
  have isFile : IsFileOf fields (some ⟨Text.trim text, bytes⟩) :=
    .whole ⟨_, name, .text fits⟩ ⟨_, content, .text (Text.Base64.trim_encode bytes)⟩
  have file : (readFields ownerField ⟨fields, false⟩).value.file =
      some ⟨Text.trim text, bytes⟩ := congrArg Noted.value ((read_file_eq_iff _).2 isFile)
  refine ⟨(readFields ownerField ⟨fields, false⟩).value, (parse_eq_ok_iff _).2 ?_, file⟩
  refine ⟨valid, read_fields_held ownerField ⟨fields, false⟩, ?_, .inl ?_⟩
  · rwa [file]
  · rw [file]
    exact Option.some_ne_none _

/-- A body is accepted for a file, a link or both, and never for half of a file. -/
theorem attachments_are_whole (ownerField : String) (fields : List (String × Json)) :
    (∀ input, parse ownerField (.object fields) = .ok input ↔
      IsReadAs ownerField fields input) ∧
    (∀ input, parse ownerField (.object fields) = .ok input →
      (input.file ≠ none ∨ input.link ≠ "") ∧
        (input.file ≠ none ↔ IsGiven fields "filename" ∨ IsGiven fields "content") ∧
        (input.file ≠ none → IsGiven fields "filename" ∧ IsGiven fields "content")) ∧
    (∀ text bytes, RestIsValid ownerField fields →
      Json.lookup fields "filename" = some (.string text) →
      Attachment.isFileName (Text.trim text) = true →
      Json.lookup fields "content" =
        some (.string (String.ofList (Text.Base64.encode bytes))) →
      ∃ input, parse ownerField (.object fields) = .ok input ∧
        input.file = some ⟨Text.trim text, bytes⟩) ∧
    (IsGiven fields "filename" → ¬IsGiven fields "content" →
      (errors ownerField fields).contains "content" = true) ∧
    (IsGiven fields "content" → ¬IsGiven fields "filename" →
      (errors ownerField fields).contains "filename" = true) ∧
    ((errors ownerField fields).Reports "attachment" "Missing file" ↔
      LacksAll ownerField fields) ∧
    ((errors ownerField fields).Reports "link" "Missing external link" ↔
      LacksAll ownerField fields) := by
  refine ⟨parse_eq_ok_iff, ?_, fun _ _ => parse_written, half_file_is_reported.1,
    half_file_is_reported.2, reports_missing_iff (by decide), reports_missing_iff (by decide)⟩
  intro input accepted
  have isRead := (parse_eq_ok_iff input).1 accepted
  obtain ⟨name, content⟩ := isRead.file.exists_iff
  refine ⟨isRead.attached, ⟨?_, ?_⟩, fun file => ⟨name.1 file, content.1 file⟩⟩
  · exact fun file => .inl (name.1 file)
  · exact fun given => given.elim name.2 content.2

example :
    errors "company" [("company", .number (.whole 1)), ("filename", .string "terms.txt"),
      ("content", .null)] = ⟨[("content", ["This field may not be null."])]⟩ := by
  decide +kernel

end SupplyCatalog.AttachmentInput
