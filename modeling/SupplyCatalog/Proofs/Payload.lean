import SupplyCatalog.Payload.Attachment
import SupplyCatalog.Payload.SupplierPart
import SupplyCatalog.Proofs.Digits
import SupplyCatalog.Proofs.Outcome
import SupplyCatalog.RemoteImage

/-!
# What is read of a request

A payload that cannot be used is always the fault of the client, and so is an address from which no
image can be fetched. A key that is read is a number of 64 bits, and a file that is attached has a
name that stays inside a directory.
-/

namespace SupplyCatalog

/-- What an outcome yields is at least the outcome itself. -/
theorem Yields.itself {α : Type} {outcome : Except ServiceError α} {property : α → Prop}
    (yields : Yields outcome property) :
    Yields outcome fun value => outcome = .ok value ∧ property value := by
  cases outcome with
  | ok value => exact ⟨rfl, yields⟩
  | error failure => exact yields

theorem yields_finish {α : Type} (noted : Noted α) :
    Yields noted.finish fun value => value = noted.value := by
  unfold Noted.finish
  split
  · exact .ok rfl
  · simp [Yields, ServiceError.status]

/-- Reading the fields of a body. -/
theorem yields_read {α : Type} (read : Payload → Noted α) (isPartial : Bool) (body : Json) :
    Yields (do (read (← Payload.ofJson body isPartial)).finish) fun value =>
      ∃ payload, value = (read payload).value := by
  have object : Yields (Payload.ofJson body isPartial) fun _ => True := by
    unfold Payload.ofJson
    split
    · trivial
    · simp [Yields, ServiceError.status]
  apply object.bind
  intro payload _
  apply (yields_finish (read payload)).mono
  intro value result
  exact ⟨payload, result⟩

/-- A body that has been read is an object, and nothing in it broke a rule. -/
theorem read_of_parsed {α : Type} {read : Payload → Noted α} {isPartial : Bool} {body : Json}
    {value : α} (parsed : (do (read (← Payload.ofJson body isPartial)).finish) = Except.ok value) :
    ∃ fields, body = .object fields ∧ (read ⟨fields, isPartial⟩).violations = [] ∧
      value = (read ⟨fields, isPartial⟩).value := by
  obtain ⟨payload, object, finished⟩ := ok_of_bind parsed
  unfold Payload.ofJson at object
  split at object
  · rename_i fields
    cases object
    unfold Noted.finish at finished
    split at finished
    · rename_i unviolated
      exact ⟨fields, rfl, List.isEmpty_iff.1 unviolated, (Except.ok.inj finished).symm⟩
    · cases finished
  · cases object

/-- A field without a violation has the value of what stands under its key. -/
theorem Payload.value_of_unviolated {α : Type} {payload : Payload} {key : String}
    {required : Bool} {read : Json → Checked α}
    (unviolated : (payload.field key required read).violations = []) :
    match payload.raw key with
    | none => (payload.field key required read).value = none
    | some json => ∃ value, read json = .ok value ∧
        (payload.field key required read).value = some value := by
  unfold field at unviolated ⊢
  generalize payload.raw key = given at unviolated ⊢
  cases given with
  | none =>
      dsimp only [absent]
      split <;> rfl
  | some json =>
      cases json with
      | null => cases unviolated
      | _ =>
          dsimp only at unviolated ⊢
          cases result : read _ with
          | ok value => exact ⟨value, rfl, rfl⟩
          | error cause =>
              rw [result] at unviolated
              cases unviolated

theorem yields_fetch (settings : RemoteImageSettings) (world : RemoteWorld)
    (address : Option String) :
    Yields (RemoteImage.fetchGiven settings world address) fun _ => True := by
  cases address with
  | none => trivial
  | some text =>
      unfold RemoteImage.fetchGiven
      dsimp only
      cases RemoteImage.fetch settings world text with
      | ok image => exact .ok trivial
      | error failure => exact status_of_field _ _

/-! ## Keys -/

namespace Value

/-- The key of a row: a whole number of 64 bits, or text that is one but for blanks around it. -/
inductive IsKey : Json → Int → Prop
  | number {pk : Int} : Number.fitsInt64 pk = true → IsKey (.number (.whole pk)) pk
  | text {value : String} {pk : Int} :
      Number.IsInt64Text (Text.trimChars value.toList) pk → IsKey (.string value) pk

theorem pk_eq_ok_iff (json : Json) (key : Int) : pk json = .ok key ↔ IsKey json key := by
  constructor
  · intro read
    cases json with
    | number value =>
        cases value with
        | whole value =>
            unfold pk JsonNumber.int64? at read
            dsimp only at read
            cases fits : Number.fitsInt64 value with
            | true =>
                rw [fits] at read
                cases read
                exact .number fits
            | false =>
                rw [fits] at read
                cases read
        | real value => cases read
    | string value =>
        unfold pk at read
        dsimp only at read
        split at read
        · rename_i found
          cases read
          exact .text ((Number.read_int64_eq_some_iff _ _).1 found)
        · cases read
    | _ => cases read
  · intro isKey
    cases isKey with
    | number fits =>
        unfold pk JsonNumber.int64?
        simp only [fits, if_true]
    | text written =>
        unfold pk
        simp only [(Number.read_int64_eq_some_iff _ _).2 written]

theorem IsKey.fits {json : Json} {key : Int} (isKey : IsKey json key) :
    Number.fitsInt64 key = true := by
  cases isKey with
  | number fits => exact fits
  | text written =>
      obtain ⟨_, _, _, _, fits⟩ := written
      exact fits

end Value

/-! ## Attachments -/

namespace AttachmentInput

theorem read_of_field {α : Type} {payload : Payload} {key : String} {required : Bool}
    {read : Json → Checked α} {value : α}
    (result : (payload.field key required read).value = some value) :
    ∃ json, read json = .ok value := by
  unfold Payload.field at result
  split at result
  · unfold Payload.absent at result
    split at result <;> cases result
  · cases result
  · rename_i json _ _
    cases outcome : read json with
    | ok other =>
        rw [outcome] at result
        cases result
        exact ⟨json, outcome⟩
    | error cause =>
        rw [outcome] at result
        cases result

theorem is_file_name_of_read {json : Json} {name : String} (read : fileName json = .ok name) :
    Attachment.isFileName name = true := by
  unfold fileName Attachment.checkFileName at read
  dsimp only at read
  split at read
  · rename_i fits
    cases read
    exact fits
  · cases read

theorem is_file_name_of_file {payload : Payload} {file : UploadedFile}
    (given : (readFile payload).value = some file) : Attachment.isFileName file.name = true := by
  unfold readFile at given
  split at given
  · dsimp only [bind, pure] at given
    cases name : (payload.field "filename" true fileName).value with
    | none =>
        rw [name] at given
        cases given
    | some text =>
        rw [name] at given
        cases content : (payload.field "content" true Value.fileContent).value with
        | none =>
            rw [content] at given
            cases given
        | some bytes =>
            rw [content] at given
            cases given
            obtain ⟨json, read⟩ := read_of_field name
            exact is_file_name_of_read read
  · cases given

theorem yields_parse (ownerField : String) (body : Json) :
    Yields (parse ownerField body) fun input =>
      Number.fitsInt64 input.owner = true ∧
        ∀ file ∈ input.file, Attachment.isFileName file.name = true := by
  apply (yields_read (read ownerField) false body).mono
  intro input holds
  rcases holds with ⟨payload, rfl⟩
  have value : (read ownerField payload).value = (readFields ownerField payload).value := by
    unfold read
    dsimp only
    split <;> rfl
  rw [value]
  refine ⟨?_, fun file given => is_file_name_of_file given⟩
  change Number.fitsInt64 ((payload.pk ownerField true).value.getD 0) = true
  cases given : (payload.pk ownerField true).value with
  | none => rfl
  | some owner =>
      obtain ⟨json, read⟩ := read_of_field given
      exact ((Value.pk_eq_ok_iff _ _).1 read).fits

end AttachmentInput

end SupplyCatalog
