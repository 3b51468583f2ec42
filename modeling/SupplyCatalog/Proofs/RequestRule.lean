import SupplyCatalog.Payload.Attachment
import SupplyCatalog.Payload.Company
import SupplyCatalog.Payload.ManufacturerPart
import SupplyCatalog.Proofs.FieldRule
import SupplyCatalog.Proofs.Payload

/-!
# Rules of what requests give

A request in which no rule is broken gives, for each of its fields, either nothing or a value that
keeps the rule of the field. A request that creates a row gives all that is required of the row.
-/

namespace SupplyCatalog

/-- What is put in the place of a value keeps the rule that the value kept. -/
theorem rule_of_get_d {α : Type} {rule : α → Prop} {given : Option α} {old : α}
    (kept : ∀ value ∈ given, rule value) (before : rule old) : rule (given.getD old) := by
  cases given with
  | none => exact before
  | some value => exact kept value rfl

/-! ## Reading one by one -/

/-- Unless a violation is noted, the value has the property. -/
structure Noted.Tells {α : Type} (noted : Noted α) (property : α → Prop) : Prop where
  told : noted.violations = [] → property noted.value

namespace Noted.Tells

variable {α β : Type} {noted : Noted α} {property : α → Prop} {further : β → Prop}

theorem pure {value : α} (holds : property value) : (pure value : Noted α).Tells property :=
  ⟨fun _ => holds⟩

theorem violated {value : α} {violation : Violation} {rest : List Violation} :
    (⟨value, violation :: rest⟩ : Noted α).Tells property :=
  ⟨fun unviolated => absurd unviolated (List.cons_ne_nil _ _)⟩

theorem mono {weaker : α → Prop} (tells : noted.Tells property)
    (implies : ∀ value, property value → weaker value) : noted.Tells weaker :=
  ⟨fun unviolated => implies _ (tells.told unviolated)⟩

theorem bind {next : α → Noted β} (first : noted.Tells property)
    (rest : ∀ value, property value → (next value).Tells further) :
    (noted >>= next).Tells further := by
  constructor
  intro unviolated
  obtain ⟨before, after⟩ := List.append_eq_nil_iff.1 unviolated
  exact (rest noted.value (first.told before)).told after

/-- A value of which nothing has to be told. -/
theorem skip {next : α → Noted β} (rest : ∀ value, (next value).Tells further) :
    (noted >>= next).Tells further := by
  constructor
  intro unviolated
  exact (rest noted.value).told (List.append_eq_nil_iff.1 unviolated).2

end Noted.Tells

namespace Payload

variable {α : Type} {rule : α → Prop} {read : Json → Checked α}

/-- What is given keeps the rule, and what a full request has to give is given. -/
structure Gives (payload : Payload) (required : Bool) (rule : α → Prop) (given : Option α) :
    Prop where
  kept : ∀ value ∈ given, rule value
  there : required = true → payload.isPartial = false → given.isSome = true

theorem tells_absent (payload : Payload) (key : String) (required : Bool) :
    (payload.absent key required).Tells (payload.Gives required rule) := by
  unfold absent
  split
  · exact .violated
  · rename_i optional
    refine .pure ⟨by simp, ?_⟩
    intro wanted full
    simp [wanted, full] at optional

theorem tells_checked (payload : Payload) (key : String) (required : Bool) {outcome : Checked α}
    (accepts : ∀ value, outcome = .ok value → rule value) :
    (checked key outcome).Tells (payload.Gives required rule) := by
  cases outcome with
  | error cause => exact .violated
  | ok value =>
      refine .pure ⟨?_, fun _ _ => rfl⟩
      rintro other ⟨⟩
      exact accepts value rfl

theorem tells_field (payload : Payload) (key : String) (required : Bool)
    (keeps : Value.Keeps read rule) :
    (payload.field key required read).Tells (payload.Gives required rule) := by
  unfold field
  split
  · exact payload.tells_absent key required
  · exact .violated
  · exact payload.tells_checked key required (keeps _)

theorem tells_nullable (payload : Payload) (key : String) (required : Bool)
    (keeps : Value.Keeps read rule) :
    (payload.nullable key required read).Tells
      (payload.Gives required fun given => ∀ value ∈ given, rule value) := by
  unfold nullable
  split
  · exact payload.tells_absent key required
  · refine .pure ⟨?_, fun _ _ => rfl⟩
    rintro given ⟨⟩ value ⟨⟩
  · rename_i json _ _
    apply payload.tells_checked key required
    intro given mapped
    cases outcome : read json with
    | error cause =>
        rw [outcome] at mapped
        cases mapped
    | ok value =>
        rw [outcome] at mapped
        cases mapped
        rintro other ⟨⟩
        exact keeps json value outcome

theorem tells_text (payload : Payload) (key : String) (limit : Nat) :
    (payload.text key limit).Tells (payload.Gives false (Text.IsFieldText limit)) :=
  payload.tells_field key false (Value.text_keeps limit)

theorem tells_required_text (payload : Payload) (key : String) (limit : Nat) :
    (payload.requiredText key limit).Tells (payload.Gives true (Text.IsRequiredText limit)) :=
  payload.tells_field key true (Value.required_text_keeps limit)

theorem tells_nullable_text (payload : Payload) (key : String) (limit : Nat) :
    (payload.nullableText key limit).Tells
      (payload.Gives false fun given => ∀ text ∈ given, Text.IsFieldText limit text) :=
  payload.tells_nullable key false (Value.text_keeps limit)

theorem tells_link (payload : Payload) (key : String) (limit : Nat) :
    (payload.link key limit).Tells (payload.Gives false (Url.IsFieldLink limit)) :=
  payload.tells_field key false (Value.link_keeps limit)

theorem tells_email (payload : Payload) (key : String) (limit : Nat) :
    (payload.email key limit).Tells (payload.Gives false (Email.IsFieldAddress limit)) :=
  payload.tells_field key false (Value.email_keeps limit)

theorem tells_currency (payload : Payload) (key : String) (required : Bool)
    (table : CurrencyTable) :
    (payload.currency key required table).Tells (payload.Gives required (· ∈ table.codes)) :=
  payload.tells_field key required (Value.currency_keeps table)

end Payload

/-! ## Companies -/

structure CompanyChanges.KeepRules (currencies : CurrencyTable) (changes : CompanyChanges) :
    Prop where
  name : ∀ name ∈ changes.name, Text.IsRequiredText 100 name
  description : ∀ description ∈ changes.description, Text.IsFieldText 500 description
  website : ∀ website ∈ changes.website, Url.IsFieldLink 200 website
  phone : ∀ phone ∈ changes.phone, Text.IsFieldText 50 phone
  address : ∀ address ∈ changes.address, Text.IsFieldText 200 address
  email : ∀ email ∈ changes.email, Email.IsFieldAddress 254 email
  currency : ∀ code ∈ changes.currency, code ∈ currencies.codes
  contact : ∀ contact ∈ changes.contact, Text.IsFieldText 100 contact
  link : ∀ link ∈ changes.link, Url.IsFieldLink 200 link
  notes : ∀ notes ∈ changes.notes, Text.IsFieldText 50000 notes

def CompanyChanges.IsComplete (changes : CompanyChanges) : Prop :=
  changes.name.isSome = true ∧ changes.currency.isSome = true

theorem CompanyChanges.tells_read (currencies : CurrencyTable) (payload : Payload) :
    (read currencies payload).Tells fun changes =>
      changes.KeepRules currencies ∧ (payload.isPartial = false → changes.IsComplete) := by
  apply Noted.Tells.bind (payload.tells_required_text "name" 100)
  intro name nameRule
  apply Noted.Tells.bind (payload.tells_text "description" 500)
  intro description descriptionRule
  apply Noted.Tells.bind (payload.tells_link "website" 200)
  intro website websiteRule
  apply Noted.Tells.bind (payload.tells_text "phone" 50)
  intro phone phoneRule
  apply Noted.Tells.bind (payload.tells_text "address" 200)
  intro address addressRule
  apply Noted.Tells.bind (payload.tells_email "email" 254)
  intro email emailRule
  apply Noted.Tells.bind (payload.tells_currency "currency" true currencies)
  intro currency currencyRule
  apply Noted.Tells.bind (payload.tells_text "contact" 100)
  intro contact contactRule
  apply Noted.Tells.bind (payload.tells_link "link" 200)
  intro link linkRule
  apply Noted.Tells.skip
  intro isCustomer
  apply Noted.Tells.skip
  intro isSupplier
  apply Noted.Tells.skip
  intro isManufacturer
  apply Noted.Tells.bind (payload.tells_text "notes" 50000)
  intro notes notesRule
  apply Noted.Tells.skip
  intro remoteImage
  apply Noted.Tells.skip
  intro clearImage
  apply Noted.Tells.pure
  refine ⟨⟨nameRule.kept, descriptionRule.kept, websiteRule.kept, phoneRule.kept,
    addressRule.kept, emailRule.kept, currencyRule.kept, contactRule.kept, linkRule.kept,
    notesRule.kept⟩, ?_⟩
  intro full
  exact ⟨nameRule.there rfl full, currencyRule.there rfl full⟩

theorem CompanyChanges.keep_rules_of_parsed {currencies : CurrencyTable} {isPartial : Bool}
    {body : Json} {changes : CompanyChanges}
    (parsed : parse currencies isPartial body = .ok changes) :
    changes.KeepRules currencies ∧ (isPartial = false → changes.IsComplete) := by
  obtain ⟨fields, _, unviolated, rfl⟩ := read_of_parsed parsed
  exact (tells_read currencies ⟨fields, isPartial⟩).told unviolated

/-! ## Manufacturer parts and parameters -/

structure ManufacturerPartChanges.KeepRules (changes : ManufacturerPartChanges) : Prop where
  mpn : ∀ given ∈ changes.mpn, ∀ mpn ∈ given, Text.IsFieldText 100 mpn
  description : ∀ description ∈ changes.description, Text.IsFieldText 250 description
  link : ∀ link ∈ changes.link, Url.IsFieldLink 200 link

theorem ManufacturerPartChanges.tells_read (payload : Payload) :
    (read payload).Tells KeepRules := by
  apply Noted.Tells.skip
  intro part
  apply Noted.Tells.skip
  intro manufacturer
  apply Noted.Tells.bind (payload.tells_nullable_text "MPN" 100)
  intro mpn mpnRule
  apply Noted.Tells.bind (payload.tells_text "description" 250)
  intro description descriptionRule
  apply Noted.Tells.bind (payload.tells_link "link" 200)
  intro link linkRule
  exact .pure ⟨mpnRule.kept, descriptionRule.kept, linkRule.kept⟩

theorem ManufacturerPartChanges.keep_rules_of_parsed {isPartial : Bool} {body : Json}
    {changes : ManufacturerPartChanges} (parsed : parse isPartial body = .ok changes) :
    changes.KeepRules := by
  obtain ⟨fields, _, unviolated, rfl⟩ := read_of_parsed parsed
  exact (tells_read ⟨fields, isPartial⟩).told unviolated

structure ParameterChanges.KeepRules (changes : ParameterChanges) : Prop where
  name : ∀ name ∈ changes.name, Text.IsRequiredText 500 name
  value : ∀ value ∈ changes.value, Text.IsRequiredText 500 value
  units : ∀ units ∈ changes.units, Text.IsFieldText 64 units

def ParameterChanges.IsComplete (changes : ParameterChanges) : Prop :=
  changes.name.isSome = true ∧ changes.value.isSome = true

theorem ParameterChanges.tells_read (payload : Payload) :
    (read payload).Tells fun changes =>
      changes.KeepRules ∧ (payload.isPartial = false → changes.IsComplete) := by
  apply Noted.Tells.skip
  intro manufacturerPart
  apply Noted.Tells.bind (payload.tells_required_text "name" 500)
  intro name nameRule
  apply Noted.Tells.bind (payload.tells_required_text "value" 500)
  intro value valueRule
  apply Noted.Tells.bind (payload.tells_text "units" 64)
  intro units unitsRule
  apply Noted.Tells.pure
  refine ⟨⟨nameRule.kept, valueRule.kept, unitsRule.kept⟩, ?_⟩
  intro full
  exact ⟨nameRule.there rfl full, valueRule.there rfl full⟩

theorem ParameterChanges.keep_rules_of_parsed {isPartial : Bool} {body : Json}
    {changes : ParameterChanges} (parsed : parse isPartial body = .ok changes) :
    changes.KeepRules ∧ (isPartial = false → changes.IsComplete) := by
  obtain ⟨fields, _, unviolated, rfl⟩ := read_of_parsed parsed
  exact (tells_read ⟨fields, isPartial⟩).told unviolated

/-! ## Supplier parts and price breaks -/

structure SupplierPartChanges.KeepRules (changes : SupplierPartChanges) : Prop where
  sku : ∀ sku ∈ changes.sku, Text.IsRequiredText 100 sku
  description : ∀ description ∈ changes.description, Text.IsFieldText 250 description
  link : ∀ link ∈ changes.link, Url.IsFieldLink 200 link
  note : ∀ note ∈ changes.note, Text.IsFieldText 100 note
  packaging : ∀ packaging ∈ changes.packaging, Text.IsFieldText 50 packaging
  packSize : ∀ size ∈ changes.packSize, size.HasAtMost 15 5 ∧ 0 < size.toRat

structure SupplierPartInput.KeepsRules (input : SupplierPartInput) : Prop where
  changes : input.changes.KeepRules
  available : ∀ quantity ∈ input.available, quantity.HasAtMost 10 3 ∧ 0 ≤ quantity.toRat
  mpn : ∀ link ∈ input.manufacturerLink, Text.IsFieldText 100 link.mpn

def SupplierPartInput.IsComplete (input : SupplierPartInput) : Prop :=
  input.changes.sku.isSome = true

namespace SupplierPartInput

theorem tells_changes (payload : Payload) :
    (readChanges payload).Tells fun changes =>
      changes.KeepRules ∧ (payload.isPartial = false → changes.sku.isSome = true) := by
  apply Noted.Tells.bind (payload.tells_field "pack_size" false Value.pack_size_keeps)
  intro packSize packSizeRule
  apply Noted.Tells.skip
  intro part
  apply Noted.Tells.skip
  intro supplier
  apply Noted.Tells.skip
  intro manufacturerPart
  apply Noted.Tells.bind (payload.tells_required_text "SKU" 100)
  intro sku skuRule
  apply Noted.Tells.bind (payload.tells_text "description" 250)
  intro description descriptionRule
  apply Noted.Tells.bind (payload.tells_link "link" 200)
  intro link linkRule
  apply Noted.Tells.bind (payload.tells_text "note" 100)
  intro note noteRule
  apply Noted.Tells.bind (payload.tells_text "packaging" 50)
  intro packaging packagingRule
  exact .pure ⟨⟨skuRule.kept, descriptionRule.kept, linkRule.kept, noteRule.kept,
    packagingRule.kept, packSizeRule.kept⟩, skuRule.there rfl⟩

theorem tells_available (payload : Payload) :
    (readAvailable payload).Tells fun given =>
      ∀ quantity ∈ given, quantity.HasAtMost 10 3 ∧ 0 ≤ quantity.toRat := by
  apply (payload.tells_field "available" false (Value.decimal_at_least_keeps _ 10 3)).mono
  intro given rule quantity member
  have kept := rule.kept quantity member
  rwa [Decimal.to_rat_zero] at kept

theorem tells_link (payload : Payload) :
    (readLink payload).Tells fun given => ∀ link ∈ given, Text.IsFieldText 100 link.mpn := by
  have none : (pure none : Noted (Option ManufacturerLink)).Tells fun given =>
      ∀ link ∈ given, Text.IsFieldText 100 link.mpn :=
    .pure (by simp)
  unfold readLink
  split
  · apply Noted.Tells.skip
    intro manufacturer
    cases manufacturer with
    | none => exact none
    | some manufacturer =>
        dsimp only
        apply Noted.Tells.bind (payload.tells_text "MPN" 100)
        intro mpn mpnRule
        apply Noted.Tells.pure
        intro link member
        obtain ⟨text, given, rfl⟩ := Option.map_eq_some_iff.1 member
        exact mpnRule.kept text given
  · exact none

theorem tells_create (payload : Payload) :
    (readCreate payload).Tells fun input =>
      input.KeepsRules ∧ (payload.isPartial = false → input.IsComplete) := by
  apply Noted.Tells.bind (tells_changes payload)
  intro changes changesRule
  apply Noted.Tells.bind (tells_available payload)
  intro available availableRule
  apply Noted.Tells.bind (tells_link payload)
  intro link linkRule
  exact .pure ⟨⟨changesRule.1, availableRule, linkRule⟩, changesRule.2⟩

theorem tells_update (payload : Payload) : (readUpdate payload).Tells KeepsRules := by
  apply Noted.Tells.bind (tells_changes payload)
  intro changes changesRule
  apply Noted.Tells.bind (tells_available payload)
  intro available availableRule
  exact .pure ⟨changesRule.1, availableRule, by simp⟩

theorem keeps_rules_of_create {body : Json} {input : SupplierPartInput}
    (parsed : parseCreate body = .ok input) : input.KeepsRules ∧ input.IsComplete := by
  obtain ⟨fields, _, unviolated, rfl⟩ := read_of_parsed parsed
  obtain ⟨rules, complete⟩ := (tells_create ⟨fields, false⟩).told unviolated
  exact ⟨rules, complete rfl⟩

theorem keeps_rules_of_update {isPartial : Bool} {body : Json} {input : SupplierPartInput}
    (parsed : parseUpdate isPartial body = .ok input) : input.KeepsRules := by
  obtain ⟨fields, _, unviolated, rfl⟩ := read_of_parsed parsed
  exact (tells_update ⟨fields, isPartial⟩).told unviolated

end SupplierPartInput

structure PriceBreakChanges.KeepRules (currencies : CurrencyTable) (changes : PriceBreakChanges) :
    Prop where
  quantity : ∀ quantity ∈ changes.quantity, quantity.HasAtMost 15 5 ∧ 1 ≤ quantity.toRat
  price : ∀ given ∈ changes.price, ∀ price ∈ given, price.HasAtMost 19 6
  priceCurrency : ∀ code ∈ changes.priceCurrency, code ∈ currencies.codes

theorem PriceBreakChanges.tells_read (currencies : CurrencyTable) (payload : Payload) :
    (read currencies payload).Tells (KeepRules currencies) := by
  apply Noted.Tells.bind
    (payload.tells_field "quantity" true (Value.decimal_at_least_keeps _ 15 5))
  intro quantity quantityRule
  rw [Decimal.to_rat_one] at quantityRule
  apply Noted.Tells.skip
  intro part
  apply Noted.Tells.bind (payload.tells_nullable "price" true (Value.decimal_keeps 19 6))
  intro price priceRule
  apply Noted.Tells.bind (payload.tells_currency "price_currency" false currencies)
  intro priceCurrency currencyRule
  exact .pure ⟨quantityRule.kept, priceRule.kept, currencyRule.kept⟩

theorem PriceBreakChanges.keep_rules_of_parsed {currencies : CurrencyTable} {isPartial : Bool}
    {body : Json} {changes : PriceBreakChanges}
    (parsed : parse currencies isPartial body = .ok changes) : changes.KeepRules currencies := by
  obtain ⟨fields, _, unviolated, rfl⟩ := read_of_parsed parsed
  exact (tells_read currencies ⟨fields, isPartial⟩).told unviolated

/-! ## Attachments -/

structure AttachmentInput.KeepsRules (input : AttachmentInput) : Prop where
  link : Url.IsFieldLink 2000 input.link
  comment : Text.IsFieldText 100 input.comment
  attached : input.file.isSome = true ∨ input.link ≠ ""

theorem AttachmentInput.tells_fields (ownerField : String) (payload : Payload) :
    (readFields ownerField payload).Tells fun input =>
      Url.IsFieldLink 2000 input.link ∧ Text.IsFieldText 100 input.comment := by
  apply Noted.Tells.skip
  intro owner
  apply Noted.Tells.bind (payload.tells_link "link" 2000)
  intro link linkRule
  apply Noted.Tells.bind (payload.tells_text "comment" 100)
  intro comment commentRule
  apply Noted.Tells.skip
  intro file
  exact .pure ⟨rule_of_get_d linkRule.kept (Url.is_field_link_empty 2000),
    rule_of_get_d commentRule.kept (Text.is_field_text_empty 100)⟩

theorem AttachmentInput.tells_read (ownerField : String) (payload : Payload) :
    (read ownerField payload).Tells KeepsRules := by
  unfold read
  dsimp only
  split
  · exact .violated
  · rename_i attached
    constructor
    intro unviolated
    obtain ⟨link, comment⟩ := (tells_fields ownerField payload).told unviolated
    refine ⟨link, comment, ?_⟩
    by_contra nothing
    simp only [not_or, Bool.not_eq_true, Option.isSome_eq_false_iff, not_ne_iff] at nothing
    simp [unviolated, nothing] at attached

theorem AttachmentInput.keeps_rules_of_parsed {ownerField : String} {body : Json}
    {input : AttachmentInput} (parsed : parse ownerField body = .ok input) :
    input.KeepsRules := by
  obtain ⟨fields, _, unviolated, rfl⟩ := read_of_parsed parsed
  exact (tells_read ownerField ⟨fields, false⟩).told unviolated

end SupplyCatalog
