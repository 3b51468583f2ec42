import SupplyCatalog.Proofs.FieldRule
import SupplyCatalog.Proofs.Form

/-!
# Values that are read as they are shown

What the readers of fields accept keeps the rules of the fields. The other way round, a value that
keeps the rule of its field is accepted and read as it is: nothing is cut off it, its length and its
digits are within their bounds, and an address is still an address. The text of a decimal reads back
with all its places, and only a zero may lose its sign.
-/

namespace SupplyCatalog

/-! ## Addresses -/

theorem Text.split_first_append {α : Type} {isMark : α → Bool} {before after : List α} {mark : α}
    (unmarked : ∀ item ∈ before, isMark item = false) (marks : isMark mark = true) :
    splitFirst? isMark (before ++ mark :: after) = some (before, after) := by
  induction before with
  | nil => simp [splitFirst?, marks]
  | cons item rest induction =>
      have first : isMark item = false := unmarked item List.mem_cons_self
      have later := induction fun other member => unmarked other (List.mem_cons_of_mem item member)
      simp [splitFirst?, first, later]

theorem Email.IsAddress.checked {text : String} (address : IsAddress text) :
    Check.email text = .ok () := by
  obtain ⟨localPart, domain, joined, named, noMark, single, point, first, last⟩ := address.divided
  have unmarked : ∀ c ∈ localPart, (c == '@') = false := by
    intro c member
    rw [beq_eq_false_iff_ne]
    rintro rfl
    exact noMark member
  have divided : Text.splitFirst? (· == '@') text.toList = some (localPart, domain) := by
    rw [joined]
    exact Text.split_first_append unmarked rfl
  have short : text.utf8ByteSize ≤ Check.emailLimit := address.short
  have clean : text.toList.any Text.isBlank = false := by
    rw [List.any_eq_false]
    intro c member
    rw [address.clean c member]
    decide
  have accepted : Check.isEmail text = true := by
    unfold Check.isEmail
    rw [divided]
    simp [named, single, point, short, first, last, clean]
  exact if_pos accepted

/-! ## Decimals -/

namespace Decimal

theorem HasAtMost.unsigned {digits places : Nat} {value : Decimal}
    (few : value.HasAtMost digits places) : value.unsigned.HasAtMost digits places := by
  unfold HasAtMost
  rw [to_rat_unsigned]
  exact few

theorem checked_of_least {least value : Decimal} (atLeast : least.toRat ≤ value.toRat) :
    Check.minValue least value = .ok () := by
  have notBelow : ¬value < least := by
    rw [lt_iff]
    exact not_lt.2 atLeast
  exact if_neg notBelow

theorem writes_text (value : Decimal) : ∀ c ∈ value.toText.toList, Number.Writes c := by
  intro c member
  have digit (member : c ∈ paddedDigits value.magnitude value.scale) : Number.Writes c :=
    .inl (is_digit_of_mem_padded _ _ member)
  rw [toText, String.toList_ofList, toChars] at member
  rcases List.mem_append.1 member with before | after
  · rcases List.mem_append.1 before with sign | whole
    · split at sign
      · rw [List.mem_singleton.1 sign]
        exact .inr (by decide)
      · cases sign
    · exact digit (List.mem_of_mem_take whole)
  · split at after
    · cases after
    · rcases List.mem_cons.1 after with rfl | place
      · exact .inr (by decide)
      · exact digit (List.mem_of_mem_drop place)

/-- There are no blanks in the text of a decimal. -/
theorem is_trimmed_text (value : Decimal) : Text.IsTrimmed value.toText :=
  Text.is_trimmed_of_no_blank fun c member => (value.writes_text c member).not_blank

theorem read_to_text (value : Decimal) : read? value.toText = some value.unsigned := by
  rw [read?, read_plain_to_text]
  rfl

end Decimal

/-! ## What readers take back -/

namespace Value

/-- Whatever keeps the rule is read as it is from what it is shown as. -/
def TakesBack {α : Type} (read : Json → Checked α) (rule : α → Prop) (shown : α → Json) : Prop :=
  ∀ value, rule value → read (shown value) = .ok value

theorem text_of_field {limit : Nat} {allowBlank : Bool} {value : String}
    (fits : Text.IsFieldText limit value) (filled : allowBlank = false → value ≠ "") :
    text limit allowBlank (.string value) = .ok value := by
  have accepted : ¬(value = "" && !allowBlank) = true := by
    cases allowBlank with
    | false => simpa using filled rfl
    | true => simp
  have short : Check.maxLength limit value = .ok () := if_neg (not_lt.2 fits.short)
  have plain : plainText (.string value) = .ok value := congrArg Except.ok fits.trimmed.trim_eq
  unfold text
  rw [bind_of_ok plain, if_neg accepted, bind_of_ok short]
  rfl

theorem text_takes_back (limit : Nat) :
    TakesBack (text limit true) (Text.IsFieldText limit) .string :=
  fun _ fits => text_of_field fits (by simp)

theorem required_text_takes_back (limit : Nat) :
    TakesBack (text limit false) (Text.IsRequiredText limit) .string := by
  intro value fits
  apply text_of_field fits.toIsFieldText
  rintro _ rfl
  obtain ⟨c, member, _⟩ := fits.notBlank
  cases member

theorem link_takes_back (limit : Nat) :
    TakesBack (address Url.linkSchemes limit) (Url.IsFieldLink limit) .string := by
  intro value link
  have accepted : (value = "" || Url.isAddress Url.linkSchemes value) = true := by
    simpa using link.address
  unfold address
  rw [bind_of_ok (text_takes_back limit value link.toIsFieldText), if_pos accepted]

theorem email_takes_back (limit : Nat) :
    TakesBack (email limit) (Email.IsFieldAddress limit) .string := by
  intro value field
  unfold email
  rw [bind_of_ok (text_takes_back limit value field.toIsFieldText)]
  rcases field.address with empty | address
  · exact if_pos empty
  · split
    · rfl
    · rw [bind_of_ok address.checked]
      rfl

theorem boolean_takes_back : TakesBack boolean (fun _ => True) .bool :=
  fun _ _ => rfl

theorem pk_takes_back : TakesBack pk (Number.fitsInt64 · = true) .int := by
  intro value fits
  unfold pk Json.int
  simp only [JsonNumber.int64?, if_pos fits]

theorem currency_takes_back (table : CurrencyTable) :
    TakesBack (currency table) (· ∈ table.codes) .string :=
  fun _ listed => if_pos (List.contains_iff_mem.2 listed)

/-- A text that may be missing is null then. -/
theorem nullable_text_takes_back (limit : Nat) :
    TakesBack (orNull (text limit true)) (∀ value ∈ ·, Text.IsFieldText limit value)
      .optionalString := by
  intro given fits
  cases given with
  | none => rfl
  | some value => exact congrArg (·.map some) (text_takes_back limit value (fits value rfl))

/-! Decimals come back without the sign of a zero. -/

theorem decimal_of_text {digits places : Nat} (some : 0 < digits) (order : places ≤ digits)
    {value : Decimal} (few : value.HasAtMost digits places) :
    decimal digits places (.string value.toText) = .ok value.unsigned := by
  have text : decimalText (.string value.toText) = .ok value.toText :=
    congrArg Except.ok value.is_trimmed_text.trim_eq
  have plain : plainDecimal (.string value.toText) = .ok value.unsigned := by
    unfold plainDecimal
    rw [bind_of_ok text, value.read_to_text]
  have precise : Check.precision digits places value.unsigned = .ok () :=
    few.unsigned.checked some order
  unfold decimal
  rw [bind_of_ok plain, bind_of_ok precise]
  rfl

theorem decimal_at_least_of_text {digits places : Nat} (some : 0 < digits)
    (order : places ≤ digits) {least value : Decimal} (few : value.HasAtMost digits places)
    (atLeast : least.toRat ≤ value.toRat) :
    decimalAtLeast least digits places (.string value.toText) = .ok value.unsigned := by
  have above : Check.minValue least value.unsigned = .ok () :=
    Decimal.checked_of_least (by rwa [Decimal.to_rat_unsigned])
  unfold decimalAtLeast
  rw [bind_of_ok (decimal_of_text some order few), bind_of_ok above]
  rfl

end Value

end SupplyCatalog
