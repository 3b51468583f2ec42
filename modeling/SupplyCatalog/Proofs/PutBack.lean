import SupplyCatalog.Proofs.MergedUpdate
import SupplyCatalog.Proofs.ReadBack
import SupplyCatalog.Proofs.RowRule
import SupplyCatalog.Proofs.ShownValue
import SupplyCatalog.View.SupplierPart

/-!
# Views that are put back

A view shows a row under the very keys that a payload is read from, among others that are not
looked at. Sent back as a full payload it is accepted, and it changes nothing: each field is given
the value that it had, and only the sign of a zero may get lost. A company that has no image shows
null for it, which asks for no image.
-/

namespace SupplyCatalog

/-! ## The keys of a view -/

theorem Json.lookup_append (first second : List (String × Json)) (key : String) :
    lookup (first ++ second) key = (lookup first key).or (lookup second key) := by
  unfold lookup
  rw [List.find?_append, Option.map_or]

theorem View.lookup_shown (on : Bool) (key : String) (value : Json) (other : String) :
    Json.lookup (shown on key value) other =
      if on = true ∧ key = other then some value else none := by
  cases on <;> simp [shown, Json.lookup]

/-- What stands under the key of a column is read as the column has it in the row. -/
def Column.IsShown {C R : Type} (column : Column C R) (body : Json) (row : R) : Prop :=
  ∃ value, body.field? column.key = some value ∧ column.read value = .ok (column.shown row)

theorem Payload.fault_of_read {α : Type} {required isPartial : Bool} {read : Json → Checked α}
    {value : Json} {result : α} (taken : read value = .ok result) :
    fault required isPartial read (some value) = none := by
  unfold fault
  dsimp only
  rw [taken]

namespace Form

variable {C R A : Type} {form others : Form C} {read : Payload → Noted C}
  {columns : List (Column C R)} {applyTo : C → R → R} {apart : R → A}

section Shown

variable (describes : form.Describes [] read) (made : form = columns.map Column.field ++ others)
  {fields : List (String × Json)} {target : R}
  (isShown : ∀ column ∈ columns, column.IsShown (.object fields) target)

include describes made isShown

/-- A body that shows all columns of a row is complete. -/
theorem accepts_shown
    (fine : ∀ field ∈ others, field.fault false (Json.lookup fields field.key) = none) :
    ∃ changes, parsed read false (.object fields) = .ok changes := by
  rw [describes.accepted_iff, made]
  intro field member
  rcases List.mem_append.1 member with inColumns | other
  · obtain ⟨column, isColumn, rfl⟩ := List.mem_map.1 inColumns
    obtain ⟨value, there, taken⟩ := isShown column isColumn
    change Json.lookup fields column.key = some value at there
    change Payload.fault _ _ column.read (Json.lookup fields column.key) = none
    rw [there]
    exact Payload.fault_of_read taken
  · exact fine field other

theorem restores_shown (sets : SetsColumns applyTo columns apart) {changes : C}
    (accepted : parsed read false (.object fields) = .ok changes) {row : R}
    (same : apart row = apart target) : applyTo changes row = target := by
  have inForm : ∀ column ∈ columns, column.field ∈ form := by
    intro column member
    rw [made]
    exact List.mem_append_left _ (List.mem_map_of_mem member)
  apply sets.determined
  · rw [sets.apart, same]
  · intro column member
    obtain ⟨value, there, taken⟩ := isShown column member
    change Json.lookup fields column.key = some value at there
    rw [sets.shown _ _ column member, given_eq describes inForm accepted member, there,
      Payload.given, Option.bind_some, taken]
    rfl

/-- A body that shows all columns of a row is accepted, and makes that row of any one that agrees
with it apart from the columns. -/
theorem puts_back (sets : SetsColumns applyTo columns apart)
    (fine : ∀ field ∈ others, field.fault false (Json.lookup fields field.key) = none) :
    ∃ changes, parsed read false (.object fields) = .ok changes ∧
      ∀ row, apart row = apart target → applyTo changes row = target := by
  obtain ⟨changes, accepted⟩ := accepts_shown describes made isShown fine
  exact ⟨changes, accepted, fun _ same => restores_shown describes made isShown sets accepted same⟩

end Shown

end Form

/-! ## Companies -/

theorem Company.is_shown {bundle : CompanyBundle} {table : CurrencyTable}
    (rules : bundle.company.KeepsRules table) :
    ∀ column ∈ CompanyChanges.columns table,
      column.IsShown (View.company bundle) bundle.company := by
  simp only [CompanyChanges.columns, List.forall_mem_cons]
  refine ⟨⟨.string _, ?_, Value.required_text_takes_back 100 _ rules.name⟩,
    ⟨.string _, ?_, Value.text_takes_back 500 _ rules.description⟩,
    ⟨.string _, ?_, Value.link_takes_back 200 _ rules.website⟩,
    ⟨.string _, ?_, Value.text_takes_back 50 _ rules.phone⟩,
    ⟨.string _, ?_, Value.text_takes_back 200 _ rules.address⟩,
    ⟨.string _, ?_, Value.email_takes_back 254 _ rules.email⟩,
    ⟨.string _, ?_, Value.currency_takes_back table _ rules.currency⟩,
    ⟨.string _, ?_, Value.text_takes_back 100 _ rules.contact⟩,
    ⟨.string _, ?_, Value.link_takes_back 200 _ rules.link⟩,
    ⟨.bool _, ?_, Value.boolean_takes_back _ trivial⟩,
    ⟨.bool _, ?_, Value.boolean_takes_back _ trivial⟩,
    ⟨.bool _, ?_, Value.boolean_takes_back _ trivial⟩,
    ⟨.string _, ?_, Value.text_takes_back 50000 _ rules.notes⟩, List.forall_mem_nil _⟩
  all_goals simp [Column.plain, View.company, View.companyFields, Json.field?, Json.lookup_cons]

namespace CompanyChanges

/-- Nothing is shown of an image that there is not. -/
theorem others_fine {bundle : CompanyBundle} (bare : bundle.company.image = none) :
    ∀ field ∈ [remoteImageField, imageField],
      field.fault false ((View.company bundle).field? field.key) = none := by
  have address : (View.company bundle).field? "remote_image" = none := by
    simp [View.company, View.companyFields, Json.field?, Json.lookup]
  have image : (View.company bundle).field? "image" = some .null := by
    simp [View.company, View.companyFields, Json.field?, Json.lookup_cons, Company.imageUrl,
      bare, Json.optionalString]
  simp only [List.forall_mem_cons, remoteImageField, imageField, address, image]
  exact ⟨rfl, rfl, List.forall_mem_nil _⟩

/-- A body without an address asks for no image. -/
theorem remote_image_of_absent {table : CurrencyTable} {isPartial : Bool} {body : Json}
    {changes : CompanyChanges} (accepted : parse table isPartial body = .ok changes)
    (absent : body.field? "remote_image" = none) : changes.remoteImage = none := by
  obtain ⟨fields, rfl, _⟩ := read_of_parsed accepted
  have held := ((describes table).governs isPartial).values fields changes accepted
    remoteImageField (List.mem_append_right _ List.mem_cons_self)
  change changes.remoteImage = remoteImageField.kept (Json.lookup fields "remote_image") at held
  change Json.lookup fields "remote_image" = none at absent
  rw [held, absent]
  rfl

end CompanyChanges

/-! ## Manufacturer parts and parameters -/

structure ManufacturerPart.HoldsKeys (row : ManufacturerPart) : Prop where
  part : Number.fitsInt64 row.part = true
  manufacturer : Number.fitsInt64 row.manufacturer = true

theorem ManufacturerPart.is_shown {bundle : ManufacturerPartBundle}
    (detail : ManufacturerPartDetail) (rules : bundle.manufacturerPart.KeepsRules)
    (keys : bundle.manufacturerPart.HoldsKeys) :
    ∀ column ∈ ManufacturerPartChanges.columns,
      column.IsShown (View.manufacturerPart bundle detail) bundle.manufacturerPart := by
  simp only [ManufacturerPartChanges.columns, List.forall_mem_cons]
  refine ⟨⟨.int _, ?_, Value.pk_takes_back _ keys.part⟩,
    ⟨.int _, ?_, Value.pk_takes_back _ keys.manufacturer⟩,
    ⟨.optionalString _, ?_, Value.nullable_text_takes_back 100 _ rules.mpn⟩,
    ⟨.string _, ?_, Value.text_takes_back 250 _ rules.description⟩,
    ⟨.string _, ?_, Value.link_takes_back 200 _ rules.link⟩, List.forall_mem_nil _⟩
  all_goals simp [Column.plain, Column.nullable, View.manufacturerPart, Json.field?,
    Json.lookup_append, View.lookup_shown, Json.lookup_cons]

theorem Parameter.is_shown {bundle : ParameterBundle} (detail : ParameterDetail)
    (rules : bundle.parameter.KeepsRules)
    (key : Number.fitsInt64 bundle.parameter.manufacturerPart = true) :
    ∀ column ∈ ParameterChanges.columns,
      column.IsShown (View.parameter bundle detail) bundle.parameter := by
  simp only [ParameterChanges.columns, List.forall_mem_cons]
  refine ⟨⟨.int _, ?_, Value.pk_takes_back _ key⟩,
    ⟨.string _, ?_, Value.required_text_takes_back 500 _ rules.name⟩,
    ⟨.string _, ?_, Value.required_text_takes_back 500 _ rules.value⟩,
    ⟨.string _, ?_, Value.text_takes_back 64 _ rules.units⟩, List.forall_mem_nil _⟩
  all_goals simp [Column.plain, View.parameter, Json.field?, Json.lookup_append,
    View.lookup_shown, Json.lookup_cons]

/-! ## Price breaks -/

def PriceBreak.unsigned (row : PriceBreak) : PriceBreak :=
  { row with quantity := row.quantity.unsigned, price := row.price.map Decimal.unsigned }

theorem PriceBreak.unsigned_same_as (row : PriceBreak) : row.unsigned.SameAs row where
  pk := rfl
  part := rfl
  quantity := row.quantity.to_rat_unsigned
  price := by
    cases price : row.price with
    | none => simp [unsigned, price]
    | some value => simp [unsigned, price, value.to_rat_unsigned]
  priceCurrency := rfl
  updated := rfl

/-- A price that is not known is null. -/
theorem Value.nullable_decimal_of_text {digits places : Nat} (some : 0 < digits)
    (order : places ≤ digits) {given : Option Decimal}
    (few : ∀ value ∈ given, value.HasAtMost digits places) :
    orNull (decimal digits places) (View.optionalDecimal given) =
      .ok (given.map Decimal.unsigned) := by
  cases given with
  | none => rfl
  | some value => exact congrArg (·.map Option.some) (decimal_of_text some order (few value rfl))

theorem PriceBreak.is_shown {bundle : PriceBreakBundle} {table : CurrencyTable}
    (detail : PriceBreakDetail) (rules : bundle.priceBreak.KeepsRules table)
    (key : Number.fitsInt64 bundle.priceBreak.part = true) :
    ∀ column ∈ PriceBreakChanges.columns table,
      column.IsShown (View.priceBreak bundle detail) bundle.priceBreak.unsigned := by
  have least : Decimal.one.toRat ≤ bundle.priceBreak.quantity.toRat := by
    rw [Decimal.to_rat_one]
    exact rules.quantity.2
  simp only [PriceBreakChanges.columns, List.forall_mem_cons]
  refine ⟨⟨View.decimal _, ?_,
      Value.decimal_at_least_of_text (by decide) (by decide) rules.quantity.1 least⟩,
    ⟨.int bundle.priceBreak.part, ?_, Value.pk_takes_back _ key⟩,
    ⟨View.optionalDecimal _, ?_,
      Value.nullable_decimal_of_text (by decide) (by decide) rules.price⟩,
    ⟨.string bundle.priceBreak.priceCurrency, ?_,
      Value.currency_takes_back table _ rules.priceCurrency⟩, List.forall_mem_nil _⟩
  all_goals simp [Column.plain, Column.nullable, View.priceBreak, Json.field?, Json.lookup_append,
    View.lookup_shown, Json.lookup_cons]

/-! ## All kinds -/

/-- Whatever a table holds and whichever details are switched on, a view is a full payload of its
kind. It makes the row that is shown of any row under the same key, however far its fields have
changed in the meantime, and so leaves the row itself as it is. -/
theorem views_put_back_change_nothing (table : CurrencyTable) :
    (∀ bundle : CompanyBundle, bundle.company.KeepsRules table → bundle.company.image = none →
      ∃ changes, CompanyChanges.parse table false (View.company bundle) = .ok changes ∧
        changes.remoteImage = none ∧
        ∀ row : Company, row.pk = bundle.company.pk → row.image = none →
          changes.applyTo row = bundle.company ∧ row.changed changes none = bundle.company) ∧
      (∀ (bundle : ManufacturerPartBundle) (detail : ManufacturerPartDetail),
        bundle.manufacturerPart.KeepsRules → bundle.manufacturerPart.HoldsKeys →
        ∃ changes,
          ManufacturerPartChanges.parse false (View.manufacturerPart bundle detail) =
            .ok changes ∧
          ∀ row : ManufacturerPart, row.pk = bundle.manufacturerPart.pk →
            changes.applyTo row = bundle.manufacturerPart) ∧
      (∀ (bundle : ParameterBundle) (detail : ParameterDetail), bundle.parameter.KeepsRules →
        Number.fitsInt64 bundle.parameter.manufacturerPart = true →
        ∃ changes, ParameterChanges.parse false (View.parameter bundle detail) = .ok changes ∧
          ∀ row : Parameter, row.pk = bundle.parameter.pk →
            changes.applyTo row = bundle.parameter) ∧
      ∀ (bundle : PriceBreakBundle) (detail : PriceBreakDetail),
        bundle.priceBreak.KeepsRules table → Number.fitsInt64 bundle.priceBreak.part = true →
        ∃ changes,
          PriceBreakChanges.parse table false (View.priceBreak bundle detail) = .ok changes ∧
          ∀ row : PriceBreak, row.pk = bundle.priceBreak.pk →
            row.updated = bundle.priceBreak.updated →
            (changes.applyTo row).SameAs bundle.priceBreak := by
  refine ⟨?_, ?_, ?_, ?_⟩
  · intro bundle rules bare
    obtain ⟨changes, accepted, restores⟩ := Form.puts_back (CompanyChanges.describes table) rfl
      (Company.is_shown rules) (CompanyChanges.sets_columns table)
      (CompanyChanges.others_fine bare)
    have nowhere : changes.remoteImage = none :=
      CompanyChanges.remote_image_of_absent accepted (by rfl)
    refine ⟨changes, accepted, nowhere, ?_⟩
    intro row samePk none
    have same : changes.applyTo row = bundle.company := by
      apply restores
      rw [CompanyChanges.apart, CompanyChanges.apart, samePk, none, bare]
    have image : row.imageAfter changes Option.none = bundle.company.image := by
      unfold Company.imageAfter
      simp [none, bare]
    refine ⟨same, ?_⟩
    unfold Company.changed
    rw [same, image]
  · intro bundle detail rules keys
    exact Form.puts_back ManufacturerPartChanges.describes (List.append_nil _).symm
      (ManufacturerPart.is_shown detail rules keys) ManufacturerPartChanges.sets_columns
      (List.forall_mem_nil _)
  · intro bundle detail rules key
    exact Form.puts_back ParameterChanges.describes (List.append_nil _).symm
      (Parameter.is_shown detail rules key) ParameterChanges.sets_columns (List.forall_mem_nil _)
  · intro bundle detail rules key
    obtain ⟨changes, accepted, restores⟩ := Form.puts_back (PriceBreakChanges.describes table)
      (List.append_nil _).symm (PriceBreak.is_shown detail rules key)
      (PriceBreakChanges.sets_columns table) (List.forall_mem_nil _)
    refine ⟨changes, accepted, ?_⟩
    intro row samePk sameTime
    have same : changes.applyTo row = bundle.priceBreak.unsigned := by
      apply restores
      rw [PriceBreakChanges.apart, samePk, sameTime]
      rfl
    rw [same]
    exact bundle.priceBreak.unsigned_same_as

namespace SmallCatalogue

def companyBundle : CompanyBundle := ⟨company.create, 1, 1⟩

def manufacturerPartBundle : ManufacturerPartBundle where
  manufacturerPart := { manufacturerPart.create with link := "https://acme.example/b-1" }
  part := part
  manufacturer := company.create

def parameterBundle : ParameterBundle := ⟨⟨1, 1, "Length", "20", "mm"⟩, manufacturerPartBundle⟩

/-- From ten pieces upward there is nothing to pay, which is written with a sign. -/
def priceBreakBundle : PriceBreakBundle where
  priceBreak :=
    { price.create .standard with price := some { Decimal.zero with negative := true } }
  supplierPart := ⟨supplierPart.changes.create, part, company.create, none, none⟩

end SmallCatalogue

open SmallCatalogue in
/-- Rows that have been changed are made what they were when they were shown. -/
theorem small_catalogue_is_put_back :
    (companyBundle.company.KeepsRules .standard ∧ companyBundle.company.image = none ∧
      ∃ changes, CompanyChanges.parse .standard false (View.company companyBundle) = .ok changes ∧
        changes.applyTo { companyBundle.company with name := "Bolts", isSupplier := false } =
          companyBundle.company) ∧
      (manufacturerPartBundle.manufacturerPart.KeepsRules ∧
        manufacturerPartBundle.manufacturerPart.HoldsKeys ∧
        ∃ changes, ManufacturerPartChanges.parse false
            (View.manufacturerPart manufacturerPartBundle ⟨true, true, true⟩) = .ok changes ∧
          changes.applyTo { manufacturerPartBundle.manufacturerPart with mpn := none } =
            manufacturerPartBundle.manufacturerPart) ∧
      (parameterBundle.parameter.KeepsRules ∧
        Number.fitsInt64 parameterBundle.parameter.manufacturerPart = true ∧
        ∃ changes, ParameterChanges.parse false (View.parameter parameterBundle ⟨true⟩) =
            .ok changes ∧
          changes.applyTo { parameterBundle.parameter with units := "" } =
            parameterBundle.parameter) ∧
      priceBreakBundle.priceBreak.KeepsRules .standard ∧
        Number.fitsInt64 priceBreakBundle.priceBreak.part = true ∧
        ∃ changes, PriceBreakChanges.parse .standard false
            (View.priceBreak priceBreakBundle ⟨true, true⟩) = .ok changes ∧
          (changes.applyTo { priceBreakBundle.priceBreak with price := none }).SameAs
            priceBreakBundle.priceBreak := by
  obtain ⟨companies, manufacturerParts, parameters, priceBreaks⟩ :=
    views_put_back_change_nothing .standard
  have companyRules : companyBundle.company.KeepsRules .standard := {
    name := Value.required_text_keeps 100 (.string "Acme") _ rfl
    description := Text.is_field_text_empty 500
    website := Url.is_field_link_empty 200
    phone := Text.is_field_text_empty 50
    address := Text.is_field_text_empty 200
    email := Email.is_field_address_empty 254
    currency := by decide
    contact := Text.is_field_text_empty 100
    link := Url.is_field_link_empty 200
    notes := Text.is_field_text_empty 50000 }
  have partRules : manufacturerPartBundle.manufacturerPart.KeepsRules := {
    mpn := by
      rintro _ ⟨⟩
      exact Value.text_keeps 100 (.string "B-1") _ rfl
    description := Text.is_field_text_empty 250
    link := Value.link_keeps 200 (.string "https://acme.example/b-1") _ (by decide +kernel) }
  have parameterRules : parameterBundle.parameter.KeepsRules := {
    name := Value.required_text_keeps 500 (.string "Length") _ rfl
    value := Value.required_text_keeps 500 (.string "20") _ rfl
    units := Value.text_keeps 64 (.string "mm") _ rfl }
  have priceRules : priceBreakBundle.priceBreak.KeepsRules .standard := {
    quantity := by
      have keeps := Value.decimal_at_least_keeps .one 15 5 (.string "10.0")
        priceBreakBundle.priceBreak.quantity rfl
      rwa [Decimal.to_rat_one] at keeps
    price := by
      rintro _ ⟨⟩
      exact ⟨0, 0, by decide, by decide, by simp [Decimal.toRat, Decimal.coefficient, Decimal.zero]⟩
    priceCurrency := by decide }
  have keys : manufacturerPartBundle.manufacturerPart.HoldsKeys := ⟨by decide, by decide⟩
  obtain ⟨companyChanges, companyTaken, _, company⟩ := companies _ companyRules rfl
  obtain ⟨partChanges, partTaken, part⟩ := manufacturerParts _ ⟨true, true, true⟩ partRules keys
  obtain ⟨parameterChanges, parameterTaken, parameter⟩ :=
    parameters _ ⟨true⟩ parameterRules (by decide)
  obtain ⟨priceChanges, priceTaken, price⟩ := priceBreaks _ ⟨true, true⟩ priceRules (by decide)
  have renamed := company { companyBundle.company with name := "Bolts", isSupplier := false }
    rfl rfl
  exact ⟨⟨companyRules, rfl, companyChanges, companyTaken, renamed.1⟩,
    ⟨partRules, keys, partChanges, partTaken, part _ rfl⟩,
    ⟨parameterRules, by decide, parameterChanges, parameterTaken, parameter _ rfl⟩,
    priceRules, by decide, priceChanges, priceTaken, price _ rfl rfl⟩

end SupplyCatalog
