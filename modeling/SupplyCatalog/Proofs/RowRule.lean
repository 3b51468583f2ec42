import SupplyCatalog.Proofs.RequestRule
import SupplyCatalog.Proofs.SupplierDraft

/-!
# Rules of rows

A row keeps the rules of its kind when each of its fields does. What a request gives is put in place
of what a row had, or of the defaults of a new row, and a row that kept its rules still keeps them.
The defaults that break a rule stand in fields that a request has to give.
-/

namespace SupplyCatalog

/-! ## Companies -/

structure Company.KeepsRules (currencies : CurrencyTable) (row : Company) : Prop where
  name : Text.IsRequiredText 100 row.name
  description : Text.IsFieldText 500 row.description
  website : Url.IsFieldLink 200 row.website
  phone : Text.IsFieldText 50 row.phone
  address : Text.IsFieldText 200 row.address
  email : Email.IsFieldAddress 254 row.email
  currency : row.currency ∈ currencies.codes
  contact : Text.IsFieldText 100 row.contact
  link : Url.IsFieldLink 200 row.link
  notes : Text.IsFieldText 50000 row.notes

namespace CompanyChanges.KeepRules

variable {currencies : CurrencyTable} {changes : CompanyChanges}

theorem apply_to (given : changes.KeepRules currencies) {row : Company}
    (rules : row.KeepsRules currencies) : (changes.applyTo row).KeepsRules currencies where
  name := rule_of_get_d given.name rules.name
  description := rule_of_get_d given.description rules.description
  website := rule_of_get_d given.website rules.website
  phone := rule_of_get_d given.phone rules.phone
  address := rule_of_get_d given.address rules.address
  email := rule_of_get_d given.email rules.email
  currency := rule_of_get_d given.currency rules.currency
  contact := rule_of_get_d given.contact rules.contact
  link := rule_of_get_d given.link rules.link
  notes := rule_of_get_d given.notes rules.notes

theorem create (given : changes.KeepRules currencies) (complete : changes.IsComplete) :
    changes.create.KeepsRules currencies := by
  obtain ⟨name, named⟩ := Option.isSome_iff_exists.1 complete.1
  obtain ⟨code, chosen⟩ := Option.isSome_iff_exists.1 complete.2
  -- The two defaults that break a rule are never seen.
  have same : changes.create =
      changes.applyTo { blank with name := name, currency := code } := by
    simp [CompanyChanges.create, applyTo, named, chosen]
  rw [same]
  exact given.apply_to {
    name := given.name name named
    description := Text.is_field_text_empty 500
    website := Url.is_field_link_empty 200
    phone := Text.is_field_text_empty 50
    address := Text.is_field_text_empty 200
    email := Email.is_field_address_empty 254
    currency := given.currency code chosen
    contact := Text.is_field_text_empty 100
    link := Url.is_field_link_empty 200
    notes := Text.is_field_text_empty 50000 }

end CompanyChanges.KeepRules

/-! ## Manufacturer parts and parameters -/

structure ManufacturerPart.KeepsRules (row : ManufacturerPart) : Prop where
  mpn : ∀ mpn ∈ row.mpn, Text.IsFieldText 100 mpn
  description : Text.IsFieldText 250 row.description
  link : Url.IsFieldLink 200 row.link

theorem ManufacturerPartChanges.KeepRules.apply_to {changes : ManufacturerPartChanges}
    (given : changes.KeepRules) {row : ManufacturerPart} (rules : row.KeepsRules) :
    (changes.applyTo row).KeepsRules where
  mpn := rule_of_get_d given.mpn rules.mpn
  description := rule_of_get_d given.description rules.description
  link := rule_of_get_d given.link rules.link

theorem ManufacturerPartChanges.KeepRules.create {changes : ManufacturerPartChanges}
    (given : changes.KeepRules) : changes.create.KeepsRules :=
  given.apply_to
    ⟨by simp [blank], Text.is_field_text_empty 250, Url.is_field_link_empty 200⟩

/-- The number that a link gives is the only field of the row that is made for it. -/
theorem ManufacturerLink.made_keeps_rules {link : ManufacturerLink}
    (mpn : Text.IsFieldText 100 link.mpn) (part : Int) : (link.made part).KeepsRules := by
  refine ⟨?_, Text.is_field_text_empty 250, Url.is_field_link_empty 200⟩
  rintro other ⟨⟩
  exact mpn

structure Parameter.KeepsRules (row : Parameter) : Prop where
  name : Text.IsRequiredText 500 row.name
  value : Text.IsRequiredText 500 row.value
  units : Text.IsFieldText 64 row.units

theorem ParameterChanges.KeepRules.apply_to {changes : ParameterChanges}
    (given : changes.KeepRules) {row : Parameter} (rules : row.KeepsRules) :
    (changes.applyTo row).KeepsRules where
  name := rule_of_get_d given.name rules.name
  value := rule_of_get_d given.value rules.value
  units := rule_of_get_d given.units rules.units

theorem ParameterChanges.KeepRules.create {changes : ParameterChanges}
    (given : changes.KeepRules) (complete : changes.IsComplete) : changes.create.KeepsRules := by
  obtain ⟨name, named⟩ := Option.isSome_iff_exists.1 complete.1
  obtain ⟨value, valued⟩ := Option.isSome_iff_exists.1 complete.2
  have same : changes.create = changes.applyTo { blank with name := name, value := value } := by
    simp [ParameterChanges.create, applyTo, named, valued]
  rw [same]
  exact given.apply_to
    ⟨given.name name named, given.value value valued, Text.is_field_text_empty 64⟩

/-! ## Supplier parts -/

structure SupplierPart.KeepsRules (row : SupplierPart) : Prop where
  sku : Text.IsRequiredText 100 row.sku
  description : Text.IsFieldText 250 row.description
  link : Url.IsFieldLink 200 row.link
  note : Text.IsFieldText 100 row.note
  packaging : Text.IsFieldText 50 row.packaging
  packSize : row.packSize.HasAtMost 15 5 ∧ 0 < row.packSize.toRat
  available : row.available.HasAtMost 10 3 ∧ 0 ≤ row.available.toRat

theorem SupplierPart.KeepsRules.kept {row : SupplierPart} (rules : row.KeepsRules) :
    row.kept.KeepsRules := by
  obtain ⟨fewDigits, positive⟩ := rules.packSize
  obtain ⟨fewReported, nonneg⟩ := rules.available
  refine { rules with
    packSize := ⟨fewDigits.normalize, ?_⟩
    available := ⟨fewReported.normalize, ?_⟩ }
  · rwa [SupplierPart.kept, Decimal.to_rat_normalize]
  · rwa [SupplierPart.kept, Decimal.to_rat_normalize]

theorem SupplierPartChanges.KeepRules.apply_to {changes : SupplierPartChanges}
    (given : changes.KeepRules) {row : SupplierPart} (rules : row.KeepsRules) :
    (changes.applyTo row).KeepsRules where
  sku := rule_of_get_d given.sku rules.sku
  description := rule_of_get_d given.description rules.description
  link := rule_of_get_d given.link rules.link
  note := rule_of_get_d given.note rules.note
  packaging := rule_of_get_d given.packaging rules.packaging
  packSize := rule_of_get_d given.packSize rules.packSize
  available := rules.available

namespace SupplierPartInput.KeepsRules

variable {input : SupplierPartInput} {row : SupplierPart}

/-- A quantity that is reported takes the place of the one that was, and either keeps the rule. -/
theorem reported_kept (given : input.KeepsRules) (rules : row.KeepsRules) (now : Instant) :
    (({ row with updated := some now } : SupplierPart).reported input.available now).kept.KeepsRules
      := by
  apply SupplierPart.KeepsRules.kept
  cases reported : input.available with
  | none => exact { rules with }
  | some quantity => exact { rules with available := given.available quantity reported }

theorem changed (given : input.KeepsRules) (rules : row.KeepsRules) (now : Instant) :
    (row.changed input now).KeepsRules :=
  given.reported_kept (given.changes.apply_to rules) now

theorem created (given : input.KeepsRules) (complete : input.IsComplete) (now : Instant) :
    (input.created now).KeepsRules := by
  obtain ⟨sku, named⟩ := Option.isSome_iff_exists.1 complete
  have same : input.changes.create =
      input.changes.applyTo { SupplierPartChanges.blank with sku := sku } := by
    simp [SupplierPartChanges.create, SupplierPartChanges.applyTo, named]
  have rules : input.changes.create.KeepsRules := by
    rw [same]
    exact given.changes.apply_to {
      sku := given.changes.sku sku named
      description := Text.is_field_text_empty 250
      link := Url.is_field_link_empty 200
      note := Text.is_field_text_empty 100
      packaging := Text.is_field_text_empty 50
      packSize := ⟨Decimal.one_has_at_most (by decide) 5, by simp [SupplierPartChanges.blank]⟩
      available := ⟨Decimal.zero_has_at_most 10 3, by simp [SupplierPartChanges.blank]⟩ }
  exact given.reported_kept rules now

end SupplierPartInput.KeepsRules

/-! ## Price breaks -/

structure PriceBreak.KeepsRules (currencies : CurrencyTable) (row : PriceBreak) : Prop where
  quantity : row.quantity.HasAtMost 15 5 ∧ 1 ≤ row.quantity.toRat
  price : ∀ price ∈ row.price, price.HasAtMost 19 6
  priceCurrency : row.priceCurrency ∈ currencies.codes

namespace PriceBreakChanges.KeepRules

variable {currencies : CurrencyTable} {changes : PriceBreakChanges} {row : PriceBreak}

theorem changed (given : changes.KeepRules currencies) (rules : row.KeepsRules currencies)
    (now : Instant) : (row.changed changes now).KeepsRules currencies := by
  have quantity := rule_of_get_d given.quantity rules.quantity
  have price := rule_of_get_d given.price rules.price
  constructor
  case quantity =>
    refine ⟨quantity.1.normalize, ?_⟩
    rw [PriceBreak.changed, PriceBreak.kept, Decimal.to_rat_normalize]
    exact quantity.2
  case price =>
    intro shortest member
    obtain ⟨written, given, rfl⟩ := Option.map_eq_some_iff.1 member
    exact (price written given).normalize
  case priceCurrency => exact rule_of_get_d given.priceCurrency rules.priceCurrency

theorem created (given : changes.KeepRules currencies)
    (listed : currencies.defaultCode ∈ currencies.codes) (now : Instant) :
    (changes.created currencies now).KeepsRules currencies := by
  have blank : (PriceBreakChanges.blank currencies).KeepsRules currencies := {
    quantity := ⟨Decimal.one_has_at_most (by decide) 5, by simp [PriceBreakChanges.blank]⟩
    price := by simp [PriceBreakChanges.blank]
    priceCurrency := listed }
  exact given.changed blank now

end PriceBreakChanges.KeepRules

/-! ## Attachments -/

structure Attachment.KeepsRules (row : Attachment) : Prop where
  link : Url.IsFieldLink 2000 row.link
  comment : Text.IsFieldText 100 row.comment
  attached : row.path.isSome = true ∨ row.link ≠ ""

theorem AttachmentInput.KeepsRules.created {input : AttachmentInput} (given : input.KeepsRules)
    (owner : AttachmentOwner) (path : String → String) (today : Date) :
    (input.created owner path today).KeepsRules where
  link := given.link
  comment := given.comment
  attached := by
    simp only [AttachmentInput.created, stored, Option.isSome_map]
    exact given.attached

end SupplyCatalog
