import Mathlib.Data.List.TakeWhile
import SupplyCatalog.Proofs.FieldRule
import SupplyCatalog.Proofs.PayloadForm

/-!
# The two keys of a link

A body that creates a supplier part may hold a manufacturer and a number for the part. Nothing is
said about the two keys unless something stands under both. Then the manufacturer is judged by what
it is, and so is the number, unless the manufacturer is no key of a row: the number is not looked at
in that case, and what is wrong about it is not reported.
-/

namespace SupplyCatalog

/-! ## What stands under a key -/

theorem Text.trim_eq_empty_iff (text : String) :
    trim text = "" ↔ ∀ c ∈ text.toList, isBlank c = true := by
  constructor
  · intro empty
    have noneLeft : trimChars text.toList = [] := by
      rw [← String.toList_ofList (l := trimChars text.toList)]
      exact String.toList_eq_nil_iff.2 empty
    have blankRest : ∀ c ∈ text.toList.dropWhile isBlank, isBlank c = true := by
      rw [trimChars, List.reverse_eq_nil_iff, List.dropWhile_eq_nil_iff] at noneLeft
      simpa using noneLeft
    -- What is left of a text behind its blanks would begin with something else.
    cases rest : text.toList.dropWhile isBlank with
    | nil => exact List.dropWhile_eq_nil_iff.1 rest
    | cons first others =>
        have notBlank : isBlank first = false := head_of_drop_while text.toList (by simp [rest])
        rw [blankRest first (by simp [rest])] at notBlank
        cases notBlank
  · intro blank
    have nothing : text.toList.dropWhile isBlank = [] := List.dropWhile_eq_nil_iff.2 blank
    rw [trim, trimChars, nothing]
    rfl

namespace Value

/-- What cannot be read as a key is refused for that. -/
theorem pk_refused {json : Json} (noKey : ∀ key, ¬IsKey json key) :
    pk json = .error .notAnInteger := by
  have notRead : ∀ key, pk json ≠ .ok key := fun key read =>
    noKey key ((pk_eq_ok_iff json key).1 read)
  unfold pk at notRead ⊢
  cases json with
  | number value =>
      dsimp only at notRead ⊢
      cases whole : value.int64? with
      | none => rfl
      | some key =>
          rw [whole] at notRead
          exact (notRead key rfl).elim
  | string value =>
      dsimp only at notRead ⊢
      cases written : Number.readInt64? (Text.trimChars value.toList) with
      | none => rfl
      | some key =>
          rw [written] at notRead
          exact (notRead key rfl).elim
  | _ => rfl

inductive IsShown : Json → String → Prop
  | text (value : String) : IsShown (.string value) (Text.trim value)
  | number (value : JsonNumber) : IsShown (.number value) value.text
  | yes : IsShown (.bool true) "true"
  | no : IsShown (.bool false) "false"

theorem plain_text_eq_ok_iff (json : Json) (shown : String) :
    plainText json = .ok shown ↔ IsShown json shown := by
  constructor
  · intro read
    cases json with
    | string value =>
        cases read
        exact .text value
    | number value =>
        cases read
        exact .number value
    | bool value =>
        cases read
        cases value with
        | true => exact .yes
        | false => exact .no
    | _ => cases read
  · intro isShown
    cases isShown <;> rfl

def IsText (limit : Nat) (json : Json) (shown : String) : Prop :=
  IsShown json shown ∧ shown.length ≤ limit

theorem text_eq_ok_iff (limit : Nat) (json : Json) (shown : String) :
    text limit true json = .ok shown ↔ IsText limit json shown := by
  constructor
  · intro read
    obtain ⟨plain, fits, _⟩ := text_of_read read
    exact ⟨(plain_text_eq_ok_iff json shown).1 plain, fits.short⟩
  · rintro ⟨isShown, short⟩
    have plain := (plain_text_eq_ok_iff json shown).2 isShown
    have checked : Check.maxLength limit shown = .ok () := if_neg (not_lt.2 short)
    unfold text
    rw [bind_of_ok plain, if_neg (by simp), bind_of_ok checked]
    rfl

/-- Nothing, or what counts as nothing. -/
inductive IsLeftOut : Option Json → Prop
  | absent : IsLeftOut none
  | null : IsLeftOut (some .null)
  | no : IsLeftOut (some (.bool false))
  | blank {value : String} :
      (∀ c ∈ value.toList, Text.isBlank c = true) → IsLeftOut (some (.string value))
  | zero {value : JsonNumber} : value.isZero = true → IsLeftOut (some (.number value))

theorem is_given_iff (raw : Option Json) : isGiven raw = true ↔ ¬IsLeftOut raw := by
  constructor
  · intro given leftOut
    cases leftOut with
    | absent => cases given
    | null => cases given
    | no => cases given
    | blank blank => simp [isGiven, (Text.trim_eq_empty_iff _).2 blank] at given
    | zero zero => simp [isGiven, zero] at given
  · intro standing
    cases raw with
    | none => exact (standing .absent).elim
    | some json =>
        cases json with
        | null => exact (standing .null).elim
        | bool value =>
            cases value with
            | false => exact (standing .no).elim
            | true => rfl
        | number value =>
            cases zero : value.isZero with
            | true => exact (standing (.zero zero)).elim
            | false => simp [isGiven, zero]
        | string value =>
            have some : Text.trim value ≠ "" := fun empty =>
              standing (.blank ((Text.trim_eq_empty_iff value).1 empty))
            simpa [isGiven] using some
        | array items => rfl
        | object fields => rfl

theorem exists_of_not_left_out {raw : Option Json} (standing : ¬IsLeftOut raw) :
    ∃ json, raw = some json ∧ json ≠ .null := by
  cases raw with
  | none => exact (standing .absent).elim
  | some json =>
      refine ⟨json, rfl, ?_⟩
      rintro rfl
      exact standing .null

end Value

/-! ## Reading the link -/

namespace Payload

variable {α : Type} {payload : Payload} {key : String} {required : Bool} {read : Json → Checked α}
  {json : Json}

theorem field_of_read {value : α} (there : payload.raw key = some json) (notNull : json ≠ .null)
    (accepted : read json = .ok value) :
    payload.field key required read = ⟨some value, []⟩ := by
  unfold field
  rw [there]
  cases json with
  | null => exact (notNull rfl).elim
  | _ => exact congrArg (checked key) accepted

theorem field_of_refused {cause : Cause} (there : payload.raw key = some json)
    (notNull : json ≠ .null) (refused : read json = .error cause) :
    payload.field key required read = ⟨none, [⟨key, cause⟩]⟩ := by
  unfold field
  rw [there]
  cases json with
  | null => exact (notNull rfl).elim
  | _ => exact congrArg (checked key) refused

end Payload

namespace SupplierPartInput

variable (fields : List (String × Json))

/-- Something stands under both keys of a link. -/
def AsksForLink : Prop :=
  ¬Value.IsLeftOut (Json.lookup fields "manufacturer") ∧
    ¬Value.IsLeftOut (Json.lookup fields "MPN")

def NamesManufacturer (pk : Int) : Prop :=
  ∃ json, Json.lookup fields "manufacturer" = some json ∧ Value.IsKey json pk

/-- The number for the part is text of at most 100 characters. -/
def NamesNumber (mpn : String) : Prop :=
  ∃ json, Json.lookup fields "MPN" = some json ∧ Value.IsText 100 json mpn

def createErrors : FieldErrors := ServiceError.fieldErrors (parseCreate (.object fields))

/-- The body is accepted and asks for the link. -/
def YieldsLink (link : ManufacturerLink) : Prop :=
  ∃ input, parseCreate (.object fields) = .ok input ∧ input.manufacturerLink = some link

def RestIsValid : Prop := ∀ key, form.fault false fields key = none

/-- Each of the two keys is judged by what stands under it, whatever stands under other keys. -/
structure ChecksLinkKeys : Prop where
  unasked : ¬AsksForLink fields → (createErrors fields).get? "manufacturer" = none ∧
    (createErrors fields).get? "MPN" = none ∧ ∀ link, ¬YieldsLink fields link
  manufacturer : AsksForLink fields →
    ((createErrors fields).contains "manufacturer" = true ↔ ∀ pk, ¬NamesManufacturer fields pk)
  mpn : AsksForLink fields →
    ((createErrors fields).contains "MPN" = true ↔ ∀ mpn, ¬NamesNumber fields mpn)
  link : AsksForLink fields → ∀ link, YieldsLink fields link ↔
    RestIsValid fields ∧ NamesManufacturer fields link.manufacturer ∧ NamesNumber fields link.mpn

variable {fields}

theorem read_link_unasked (unasked : ¬AsksForLink fields) :
    readLink ⟨fields, false⟩ = ⟨none, []⟩ := by
  have notGiven : ¬(Value.isGiven (Json.lookup fields "manufacturer") &&
      Value.isGiven (Json.lookup fields "MPN")) = true := by
    rw [Bool.and_eq_true, Value.is_given_iff, Value.is_given_iff]
    exact unasked
  exact if_neg notGiven

section Asked

variable (asks : AsksForLink fields)

include asks

theorem read_link_asked :
    readLink ⟨fields, false⟩ = (do
      match ← Payload.pk ⟨fields, false⟩ "manufacturer" false with
      | none => return none
      | some manufacturer =>
          let mpn ← Payload.text ⟨fields, false⟩ "MPN" 100
          return mpn.map fun mpn => ⟨manufacturer, mpn⟩) := by
  have given : (Value.isGiven (Json.lookup fields "manufacturer") &&
      Value.isGiven (Json.lookup fields "MPN")) = true := by
    rw [Bool.and_eq_true, Value.is_given_iff, Value.is_given_iff]
    exact asks
  exact if_pos given

theorem read_manufacturer {pk : Int} (named : NamesManufacturer fields pk) :
    Payload.pk ⟨fields, false⟩ "manufacturer" false = ⟨some pk, []⟩ := by
  obtain ⟨json, there, isKey⟩ := named
  obtain ⟨other, same, notNull⟩ := Value.exists_of_not_left_out asks.1
  obtain rfl : json = other := Option.some.inj (there.symm.trans same)
  exact Payload.field_of_read there notNull ((Value.pk_eq_ok_iff json pk).2 isKey)

theorem read_no_manufacturer (unnamed : ∀ pk, ¬NamesManufacturer fields pk) :
    Payload.pk ⟨fields, false⟩ "manufacturer" false =
      ⟨none, [⟨"manufacturer", .notAnInteger⟩]⟩ := by
  obtain ⟨json, there, notNull⟩ := Value.exists_of_not_left_out asks.1
  have noKey : ∀ pk, ¬Value.IsKey json pk := fun pk isKey => unnamed pk ⟨json, there, isKey⟩
  exact Payload.field_of_refused there notNull (Value.pk_refused noKey)

theorem read_number {mpn : String} (named : NamesNumber fields mpn) :
    Payload.text ⟨fields, false⟩ "MPN" 100 = ⟨some mpn, []⟩ := by
  obtain ⟨json, there, isText⟩ := named
  obtain ⟨other, same, notNull⟩ := Value.exists_of_not_left_out asks.2
  obtain rfl : json = other := Option.some.inj (there.symm.trans same)
  exact Payload.field_of_read there notNull ((Value.text_eq_ok_iff 100 json mpn).2 isText)

theorem read_no_number (unnamed : ∀ mpn, ¬NamesNumber fields mpn) :
    ∃ cause, Payload.text ⟨fields, false⟩ "MPN" 100 = ⟨none, [⟨"MPN", cause⟩]⟩ := by
  obtain ⟨json, there, notNull⟩ := Value.exists_of_not_left_out asks.2
  cases read : Value.text 100 true json with
  | ok mpn => exact absurd ⟨json, there, (Value.text_eq_ok_iff 100 json mpn).1 read⟩ (unnamed mpn)
  | error cause => exact ⟨cause, Payload.field_of_refused there notNull read⟩

theorem read_link_of_link {link : ManufacturerLink}
    (manufacturer : NamesManufacturer fields link.manufacturer)
    (mpn : NamesNumber fields link.mpn) : readLink ⟨fields, false⟩ = ⟨some link, []⟩ := by
  rw [read_link_asked asks, read_manufacturer asks manufacturer]
  change Noted.mk _ _ = _
  rw [read_number asks mpn]
  rfl

/-- The number is not looked at behind something that is no manufacturer. -/
theorem read_link_without_manufacturer (unnamed : ∀ pk, ¬NamesManufacturer fields pk) :
    readLink ⟨fields, false⟩ = ⟨none, [⟨"manufacturer", .notAnInteger⟩]⟩ := by
  rw [read_link_asked asks, read_no_manufacturer asks unnamed]
  rfl

theorem read_link_without_number {pk : Int} (manufacturer : NamesManufacturer fields pk)
    (unnamed : ∀ mpn, ¬NamesNumber fields mpn) :
    ∃ cause, readLink ⟨fields, false⟩ = ⟨none, [⟨"MPN", cause⟩]⟩ := by
  obtain ⟨cause, read⟩ := read_no_number asks unnamed
  refine ⟨cause, ?_⟩
  rw [read_link_asked asks, read_manufacturer asks manufacturer]
  change Noted.mk _ _ = _
  rw [read]
  rfl

end Asked

/-- All that may come of reading the link of a body. -/
inductive ReadsLink (fields : List (String × Json)) : Noted (Option ManufacturerLink) → Prop
  | unasked : ¬AsksForLink fields → ReadsLink fields ⟨none, []⟩
  | whole {link : ManufacturerLink} : AsksForLink fields →
      NamesManufacturer fields link.manufacturer → NamesNumber fields link.mpn →
        ReadsLink fields ⟨some link, []⟩
  | noManufacturer : AsksForLink fields → (∀ pk, ¬NamesManufacturer fields pk) →
      ReadsLink fields ⟨none, [⟨"manufacturer", .notAnInteger⟩]⟩
  | noNumber {pk : Int} {cause : Cause} : AsksForLink fields → NamesManufacturer fields pk →
      (∀ mpn, ¬NamesNumber fields mpn) → ReadsLink fields ⟨none, [⟨"MPN", cause⟩]⟩

theorem reads_link (fields : List (String × Json)) :
    ReadsLink fields (readLink ⟨fields, false⟩) := by
  by_cases asks : AsksForLink fields
  case neg =>
    rw [read_link_unasked asks]
    exact .unasked asks
  by_cases manufacturer : ∃ pk, NamesManufacturer fields pk
  case neg =>
    have unnamed := not_exists.1 manufacturer
    rw [read_link_without_manufacturer asks unnamed]
    exact .noManufacturer asks unnamed
  obtain ⟨pk, named⟩ := manufacturer
  by_cases number : ∃ mpn, NamesNumber fields mpn
  case neg =>
    have unnamed := not_exists.1 number
    obtain ⟨cause, read⟩ := read_link_without_number asks named unnamed
    rw [read]
    exact .noNumber asks named unnamed
  obtain ⟨mpn, numbered⟩ := number
  have link : readLink ⟨fields, false⟩ = ⟨some ⟨pk, mpn⟩, []⟩ :=
    read_link_of_link asks named numbered
  rw [link]
  exact .whole asks named numbered

/-! ## What is reported, and what comes of it -/

theorem get_create_errors {key : String} (ofLink : key ∈ linkKeys) :
    (createErrors fields).get? key =
      if FieldErrors.messagesFor (readLink ⟨fields, false⟩).violations key = [] then none
      else some (FieldErrors.messagesFor (readLink ⟨fields, false⟩).violations key) := by
  have unknown : key ∉ form.keys := by
    simp only [linkKeys, List.mem_cons, List.not_mem_nil, or_false] at ofLink
    rcases ofLink with rfl | rfl <;> decide
  have elsewhere : FieldErrors.messagesFor (form.violations ⟨fields, false⟩) key = [] := by
    rw [Form.messages_for_violations keys_once, Form.fault_of_unknown unknown]
    rfl
  change (ServiceError.fieldErrors (readCreate ⟨fields, false⟩).finish).get? key = _
  rw [Form.field_errors_finish, FieldErrors.get_of_violations, create_violations,
    describes_update.records, FieldErrors.messages_for_append, elsewhere, List.nil_append]

theorem rest_is_valid_iff : RestIsValid fields ↔ form.violations ⟨fields, false⟩ = [] := by
  rw [Form.violations_eq_nil_iff]
  constructor
  · intro valid field member
    have fault := valid field.key
    rwa [Form.fault_of_mem keys_once member] at fault
  · intro faultless key
    by_cases known : key ∈ form.keys
    · obtain ⟨field, member, rfl⟩ := List.mem_map.1 known
      rw [Form.fault_of_mem keys_once member]
      exact faultless field member
    · exact Form.fault_of_unknown known false fields

theorem yields_link_iff (link : ManufacturerLink) :
    YieldsLink fields link ↔
      RestIsValid fields ∧ readLink ⟨fields, false⟩ = ⟨some link, []⟩ := by
  have violations : (readCreate ⟨fields, false⟩).violations =
      form.violations ⟨fields, false⟩ ++ (readLink ⟨fields, false⟩).violations := by
    rw [create_violations, describes_update.records]
  rw [rest_is_valid_iff]
  constructor
  · rintro ⟨input, accepted, asked⟩
    obtain ⟨_, same, unviolated, rfl⟩ := read_of_parsed accepted
    cases same
    rw [violations, List.append_eq_nil_iff] at unviolated
    rw [read_create_eq] at asked
    exact ⟨unviolated.1, congrArg₂ Noted.mk asked unviolated.2⟩
  · rintro ⟨valid, read⟩
    refine ⟨(readCreate ⟨fields, false⟩).value, ?_, ?_⟩
    · change (readCreate ⟨fields, false⟩).finish = _
      unfold Noted.finish
      rw [violations, valid, read]
      rfl
    · rw [read_create_eq, read]

theorem nothing_unasked (unasked : ¬AsksForLink fields) :
    (createErrors fields).get? "manufacturer" = none ∧ (createErrors fields).get? "MPN" = none ∧
      ∀ link, ¬YieldsLink fields link := by
  rw [get_create_errors (by decide), get_create_errors (by decide), read_link_unasked unasked]
  refine ⟨rfl, rfl, ?_⟩
  intro link yields
  obtain ⟨_, read⟩ := (yields_link_iff link).1 yields
  rw [read_link_unasked unasked] at read
  cases read

theorem contains_create_errors_iff {key : String} (ofLink : key ∈ linkKeys) :
    (createErrors fields).contains key = true ↔
      FieldErrors.messagesFor (readLink ⟨fields, false⟩).violations key ≠ [] := by
  rw [FieldErrors.contains, get_create_errors ofLink]
  split
  · rename_i none
    simp [none]
  · rename_i some
    simp [some]

theorem manufacturer_is_reported_iff (asks : AsksForLink fields) :
    (createErrors fields).contains "manufacturer" = true ↔ ∀ pk, ¬NamesManufacturer fields pk := by
  rw [contains_create_errors_iff (by decide)]
  have reads := reads_link fields
  generalize readLink ⟨fields, false⟩ = noted at reads
  cases reads with
  | unasked unasked => exact (unasked asks).elim
  | whole _ named _ => exact iff_of_false (fun some => some rfl) fun unnamed => unnamed _ named
  | noManufacturer _ unnamed => exact iff_of_true (by simp [FieldErrors.messagesFor]) unnamed
  | noNumber _ named _ =>
      exact iff_of_false (by simp [FieldErrors.messagesFor]) fun unnamed => unnamed _ named

theorem number_is_reported_iff (asks : AsksForLink fields) :
    (createErrors fields).contains "MPN" = true ↔
      (∃ pk, NamesManufacturer fields pk) ∧ ∀ mpn, ¬NamesNumber fields mpn := by
  rw [contains_create_errors_iff (by decide)]
  have reads := reads_link fields
  generalize readLink ⟨fields, false⟩ = noted at reads
  cases reads with
  | unasked unasked => exact (unasked asks).elim
  | whole _ _ numbered =>
      exact iff_of_false (fun some => some rfl) fun unnamed => unnamed.2 _ numbered
  | noManufacturer _ unnamed =>
      exact iff_of_false (by simp [FieldErrors.messagesFor]) fun named =>
        named.1.elim fun pk named => unnamed pk named
  | noNumber _ named unnumbered =>
      exact iff_of_true (by simp [FieldErrors.messagesFor]) ⟨⟨_, named⟩, unnumbered⟩

theorem yields_asked_link_iff (asks : AsksForLink fields) (link : ManufacturerLink) :
    YieldsLink fields link ↔
      RestIsValid fields ∧ NamesManufacturer fields link.manufacturer ∧
        NamesNumber fields link.mpn := by
  rw [yields_link_iff]
  refine and_congr_right fun _ => ⟨?_, ?_⟩
  · intro read
    have reads := reads_link fields
    rw [read] at reads
    cases reads with
    | whole _ named numbered => exact ⟨named, numbered⟩
  · rintro ⟨named, numbered⟩
    exact read_link_of_link asks named numbered

/-- The two keys are judged each by itself, except that a number behind something that is no
manufacturer is passed over. -/
theorem link_keys_are_checked_iff (fields : List (String × Json)) :
    (ChecksLinkKeys fields ↔
      ¬(AsksForLink fields ∧ (∀ pk, ¬NamesManufacturer fields pk) ∧
        ∀ mpn, ¬NamesNumber fields mpn)) ∧
    (AsksForLink fields ∧ (∀ pk, ¬NamesManufacturer fields pk) →
      (createErrors fields).get? "manufacturer" = some ["A valid integer is required."] ∧
        (createErrors fields).get? "MPN" = none) := by
  constructor
  · constructor
    · rintro checks ⟨asks, unnamed, unnumbered⟩
      have reported := (checks.mpn asks).2 unnumbered
      obtain ⟨⟨pk, named⟩, _⟩ := (number_is_reported_iff asks).1 reported
      exact unnamed pk named
    · intro notBoth
      refine ⟨nothing_unasked, manufacturer_is_reported_iff, ?_, yields_asked_link_iff⟩
      intro asks
      rw [number_is_reported_iff asks]
      refine ⟨And.right, fun unnumbered => ⟨?_, unnumbered⟩⟩
      by_contra unnamed
      exact notBoth ⟨asks, not_exists.1 unnamed, unnumbered⟩
  · rintro ⟨asks, unnamed⟩
    rw [get_create_errors (by decide), get_create_errors (by decide),
      read_link_without_manufacturer asks unnamed]
    exact ⟨rfl, rfl⟩

/-! ## A number that is passed over -/

/-- Neither the manufacturer nor the number is one. -/
def wrongTwice : List (String × Json) :=
  [("part", .number (.whole 1)), ("supplier", .number (.whole 2)), ("SKU", .string "D-42"),
    ("manufacturer", .string "acme"), ("MPN", .array [.string "X"])]

theorem wrong_number_is_passed_over : ¬ChecksLinkKeys wrongTwice := by
  intro checks
  have asks : AsksForLink wrongTwice :=
    ⟨(Value.is_given_iff _).1 (by decide), (Value.is_given_iff _).1 (by decide)⟩
  have unnumbered : ∀ mpn, ¬NamesNumber wrongTwice mpn := by
    rintro mpn ⟨json, there, plain, _⟩
    cases there
    cases plain
  have silent : (createErrors wrongTwice).contains "MPN" = false := by decide +kernel
  rw [(checks.mpn asks).2 unnumbered] at silent
  cases silent

end SupplierPartInput

end SupplyCatalog
