import SupplyCatalog.Payload.Company
import SupplyCatalog.Payload.ManufacturerPart
import SupplyCatalog.Payload.SupplierPart
import SupplyCatalog.Proofs.Form

/-!
# The forms of all payloads

The fields of companies, manufacturer parts, parameters, supplier parts and price breaks. Every
reader goes through the form of its kind, and the one for new supplier parts also reads the two keys
of a manufacturer link.
-/

namespace SupplyCatalog

attribute [ext] CompanyChanges ManufacturerPartChanges ParameterChanges SupplierPartChanges
  SupplierPartInput PriceBreakChanges

/-! ## Companies -/

namespace CompanyChanges

def columns (table : CurrencyTable) : List (Column CompanyChanges Company) :=
  [.plain "name" true (Value.text 100 false) (·.name) (·.name),
    .plain "description" false (Value.text 500 true) (·.description) (·.description),
    .plain "website" false (Value.address Url.linkSchemes 200) (·.website) (·.website),
    .plain "phone" false (Value.text 50 true) (·.phone) (·.phone),
    .plain "address" false (Value.text 200 true) (·.address) (·.address),
    .plain "email" false (Value.email 254) (·.email) (·.email),
    .plain "currency" true (Value.currency table) (·.currency) (·.currency),
    .plain "contact" false (Value.text 100 true) (·.contact) (·.contact),
    .plain "link" false (Value.address Url.linkSchemes 200) (·.link) (·.link),
    .plain "is_customer" false Value.boolean (·.isCustomer) (·.isCustomer),
    .plain "is_supplier" false Value.boolean (·.isSupplier) (·.isSupplier),
    .plain "is_manufacturer" false Value.boolean (·.isManufacturer) (·.isManufacturer),
    .plain "notes" false (Value.text 50000 true) (·.notes) (·.notes)]

/-- Of an address that is null or empty nothing is kept. -/
def remoteImageField : FormField CompanyChanges where
  key := "remote_image"
  isRequired := false
  Given := Option String
  read := Value.orNull (Value.address Url.fetchSchemes 2000)
  Held := Option String
  keep
    | some (some address) => if address = "" then none else some address
    | _ => none
  held := (·.remoteImage)

/-- Only null can be given. -/
def imageField : FormField CompanyChanges where
  key := "image"
  isRequired := false
  Given := Unit
  read
    | .null => .ok ()
    | _ => .error (.rule
        "The submitted data was not a file. Check the encoding type on the form.")
  Held := Bool
  keep := Option.isSome
  held := (·.clearImage)

def form (table : CurrencyTable) : Form CompanyChanges :=
  (columns table).map Column.field ++ [remoteImageField, imageField]

theorem read_remote_image_eq (payload : Payload) :
    readRemoteImage payload =
      ⟨remoteImageField.kept (payload.raw "remote_image"),
        remoteImageField.violations payload⟩ := by
  unfold readRemoteImage
  rw [Payload.nullable_eq]
  exact congrArg (Noted.mk _) (List.append_nil _)

theorem read_clear_image_eq (payload : Payload) :
    readClearImage payload =
      ⟨imageField.kept (payload.raw "image"), imageField.violations payload⟩ := by
  unfold readClearImage FormField.violations FormField.kept Payload.noted
  change _ = Noted.mk (Payload.given imageField.read (payload.raw "image")).isSome
    ((Payload.fault false payload.isPartial imageField.read (payload.raw "image")).map
      (Violation.mk "image")).toList
  cases payload.raw "image" with
  | none => rfl
  | some value => cases value <;> rfl

theorem is_read (table : CurrencyTable) (payload : Payload) :
    (form table).IsRead payload (read table payload) := by
  unfold read
  simp only [Payload.requiredText, Payload.text, Payload.link, Payload.email, Payload.currency,
    Payload.boolean, Payload.field_eq, read_remote_image_eq, read_clear_image_eq]
  constructor
  · rfl
  · simp only [form, columns, List.map_cons, List.map_nil, List.cons_append, List.nil_append,
      List.forall_mem_cons]
    exact ⟨rfl, rfl, rfl, rfl, rfl, rfl, rfl, rfl, rfl, rfl, rfl, rfl, rfl, rfl, rfl,
      List.forall_mem_nil _⟩

theorem decides (table : CurrencyTable) : (form table).Decides (read table) := by
  intro a b same
  simp only [form, columns, List.map_cons, List.map_nil, List.cons_append, List.nil_append,
    List.forall_mem_cons] at same
  obtain ⟨name, description, website, phone, address, email, currency, contact, link, isCustomer,
    isSupplier, isManufacturer, notes, remoteImage, clearImage, _⟩ := same
  exact CompanyChanges.ext name description website phone address email currency contact link
    isCustomer isSupplier isManufacturer notes remoteImage clearImage

theorem keys_once (table : CurrencyTable) : (form table).keys.Nodup := by
  simp [Form.keys, form, columns, Column.field, Column.plain, remoteImageField, imageField]

theorem describes (table : CurrencyTable) : (form table).Describes [] (read table) :=
  Form.describes_of_is_read (keys_once table) (decides table) (is_read table)

end CompanyChanges

/-! ## Manufacturer parts and parameters -/

namespace ManufacturerPartChanges

def columns : List (Column ManufacturerPartChanges ManufacturerPart) :=
  [.plain "part" true Value.pk (·.part) (·.part),
    .plain "manufacturer" true Value.pk (·.manufacturer) (·.manufacturer),
    .nullable "MPN" false (Value.text 100 true) (·.mpn) (·.mpn),
    .plain "description" false (Value.text 250 true) (·.description) (·.description),
    .plain "link" false (Value.address Url.linkSchemes 200) (·.link) (·.link)]

def form : Form ManufacturerPartChanges := columns.map Column.field

theorem is_read (payload : Payload) : form.IsRead payload (read payload) := by
  unfold read
  simp only [Payload.pk, Payload.nullableText, Payload.text, Payload.link, Payload.field_eq,
    Payload.nullable_eq]
  constructor
  · rfl
  · simp only [form, columns, List.map_cons, List.map_nil, List.forall_mem_cons]
    exact ⟨rfl, rfl, rfl, rfl, rfl, List.forall_mem_nil _⟩

theorem decides : form.Decides read := by
  intro a b same
  simp only [form, columns, List.map_cons, List.map_nil, List.forall_mem_cons] at same
  obtain ⟨part, manufacturer, mpn, description, link, _⟩ := same
  exact ManufacturerPartChanges.ext part manufacturer mpn description link

theorem keys_once : form.keys.Nodup := by
  simp [Form.keys, form, columns, Column.field, Column.plain, Column.nullable]

theorem describes : form.Describes [] read :=
  Form.describes_of_is_read keys_once decides is_read

end ManufacturerPartChanges

namespace ParameterChanges

def columns : List (Column ParameterChanges Parameter) :=
  [.plain "manufacturer_part" true Value.pk (·.manufacturerPart) (·.manufacturerPart),
    .plain "name" true (Value.text 500 false) (·.name) (·.name),
    .plain "value" true (Value.text 500 false) (·.value) (·.value),
    .plain "units" false (Value.text 64 true) (·.units) (·.units)]

def form : Form ParameterChanges := columns.map Column.field

theorem is_read (payload : Payload) : form.IsRead payload (read payload) := by
  unfold read
  simp only [Payload.pk, Payload.requiredText, Payload.text, Payload.field_eq]
  constructor
  · rfl
  · simp only [form, columns, List.map_cons, List.map_nil, List.forall_mem_cons]
    exact ⟨rfl, rfl, rfl, rfl, List.forall_mem_nil _⟩

theorem decides : form.Decides read := by
  intro a b same
  simp only [form, columns, List.map_cons, List.map_nil, List.forall_mem_cons] at same
  obtain ⟨manufacturerPart, name, value, units, _⟩ := same
  exact ParameterChanges.ext manufacturerPart name value units

theorem keys_once : form.keys.Nodup := by
  simp [Form.keys, form, columns, Column.field, Column.plain]

theorem describes : form.Describes [] read :=
  Form.describes_of_is_read keys_once decides is_read

end ParameterChanges

/-! ## Price breaks -/

namespace PriceBreakChanges

def columns (table : CurrencyTable) : List (Column PriceBreakChanges PriceBreak) :=
  [.plain "quantity" true (Value.decimalAtLeast Decimal.one 15 5) (·.quantity) (·.quantity),
    .plain "part" true Value.pk (·.part) (·.part),
    .nullable "price" true (Value.decimal 19 6) (·.price) (·.price),
    .plain "price_currency" false (Value.currency table) (·.priceCurrency) (·.priceCurrency)]

def form (table : CurrencyTable) : Form PriceBreakChanges := (columns table).map Column.field

theorem is_read (table : CurrencyTable) (payload : Payload) :
    (form table).IsRead payload (read table payload) := by
  unfold read
  simp only [Payload.pk, Payload.currency, Payload.field_eq, Payload.nullable_eq]
  constructor
  · rfl
  · simp only [form, columns, List.map_cons, List.map_nil, List.forall_mem_cons]
    exact ⟨rfl, rfl, rfl, rfl, List.forall_mem_nil _⟩

theorem decides (table : CurrencyTable) : (form table).Decides (read table) := by
  intro a b same
  simp only [form, columns, List.map_cons, List.map_nil, List.forall_mem_cons] at same
  obtain ⟨quantity, part, price, priceCurrency, _⟩ := same
  exact PriceBreakChanges.ext part quantity price priceCurrency

theorem keys_once (table : CurrencyTable) : (form table).keys.Nodup := by
  simp [Form.keys, form, columns, Column.field, Column.plain, Column.nullable]

theorem describes (table : CurrencyTable) : (form table).Describes [] (read table) :=
  Form.describes_of_is_read (keys_once table) (decides table) (is_read table)

end PriceBreakChanges

/-! ## Supplier parts -/

namespace SupplierPartInput

def columns : List (Column SupplierPartInput SupplierPart) :=
  [.plain "pack_size" false packSize (·.changes.packSize) (·.packSize),
    .plain "part" true Value.pk (·.changes.part) (·.part),
    .plain "supplier" true Value.pk (·.changes.supplier) (·.supplier),
    .nullable "manufacturer_part" false Value.pk (·.changes.manufacturerPart)
      (·.manufacturerPart),
    .plain "SKU" true (Value.text 100 false) (·.changes.sku) (·.sku),
    .plain "description" false (Value.text 250 true) (·.changes.description) (·.description),
    .plain "link" false (Value.address Url.linkSchemes 200) (·.changes.link) (·.link),
    .plain "note" false (Value.text 100 true) (·.changes.note) (·.note),
    .plain "packaging" false (Value.text 50 true) (·.changes.packaging) (·.packaging)]

/-- The quantity is handed on and takes the place of nothing by itself. -/
def availableField : FormField SupplierPartInput where
  key := "available"
  isRequired := false
  Given := Decimal
  read := Value.present (Value.decimalAtLeast Decimal.zero 10 3)
  Held := Option Decimal
  keep := id
  held := (·.available)

def form : Form SupplierPartInput := columns.map Column.field ++ [availableField]

theorem changes_violations (payload : Payload) :
    (readChanges payload).violations = Form.violations (columns.map Column.field) payload := by
  unfold readChanges
  simp only [Payload.pk, Payload.nullablePk, Payload.requiredText, Payload.text, Payload.link,
    Payload.field_eq, Payload.nullable_eq]
  rfl

theorem is_read_update (payload : Payload) : form.IsRead payload (readUpdate payload) := by
  constructor
  case violations =>
    have available : (readAvailable payload).violations = availableField.violations payload :=
      congrArg Noted.violations (payload.field_eq "available" false _)
    change (readChanges payload).violations ++ ((readAvailable payload).violations ++ []) = _
    rw [changes_violations, available, form, Form.violations_append]
    rfl
  case values =>
    unfold readUpdate readChanges readAvailable
    simp only [Payload.pk, Payload.nullablePk, Payload.requiredText, Payload.text, Payload.link,
      Payload.field_eq, Payload.nullable_eq]
    simp only [form, columns, List.map_cons, List.map_nil, List.cons_append, List.nil_append,
      List.forall_mem_cons]
    exact ⟨rfl, rfl, rfl, rfl, rfl, rfl, rfl, rfl, rfl, rfl, List.forall_mem_nil _⟩

theorem decides : form.Decides readUpdate := by
  intro a b same
  simp only [form, columns, List.map_cons, List.map_nil, List.cons_append, List.nil_append,
    List.forall_mem_cons] at same
  obtain ⟨packSize, part, supplier, manufacturerPart, sku, description, link, note, packaging,
    available, _⟩ := same
  have changes : (readUpdate a).value.changes = (readUpdate b).value.changes :=
    SupplierPartChanges.ext part supplier manufacturerPart sku description link note packaging
      packSize
  exact SupplierPartInput.ext changes available rfl

theorem keys_once : form.keys.Nodup := by
  simp [Form.keys, form, columns, Column.field, Column.plain, Column.nullable, availableField]

theorem describes_update : form.Describes [] readUpdate :=
  Form.describes_of_is_read keys_once decides is_read_update

/-! ### Links -/

def linkKeys : List String := ["manufacturer", "MPN"]

theorem create_violations (payload : Payload) :
    (readCreate payload).violations =
      (readUpdate payload).violations ++ (readLink payload).violations := by
  change (readChanges payload).violations ++
      ((readAvailable payload).violations ++ ((readLink payload).violations ++ [])) =
    ((readChanges payload).violations ++ ((readAvailable payload).violations ++ [])) ++
      (readLink payload).violations
  simp only [List.append_nil, List.append_assoc]

/-- A payload that creates is read as one that updates, and its link besides. -/
theorem read_create_eq (payload : Payload) :
    readCreate payload =
      ⟨{ (readUpdate payload).value with manufacturerLink := (readLink payload).value },
        (readUpdate payload).violations ++ (readLink payload).violations⟩ := by
  rw [← create_violations]
  rfl

theorem field_of_link {payload : Payload} {violation : Violation}
    (member : violation ∈ (readLink payload).violations) : violation.field ∈ linkKeys := by
  unfold readLink at member
  split at member
  · rw [Payload.pk, Payload.field_eq] at member
    rcases List.mem_append.1 member with first | later
    · rw [payload.field_of_noted _ _ first]
      decide
    · dsimp only at later
      split at later
      · cases later
      · rw [Payload.text, Payload.field_eq] at later
        rcases List.mem_append.1 later with second | none
        · rw [payload.field_of_noted _ _ second]
          decide
        · cases none
  · cases member

theorem read_link_congr {a b : Payload} (samePartial : a.isPartial = b.isPartial)
    (sameRaw : ∀ key ∈ linkKeys, a.raw key = b.raw key) : readLink a = readLink b := by
  have manufacturer : a.raw "manufacturer" = b.raw "manufacturer" := sameRaw _ (by decide)
  have mpn : a.raw "MPN" = b.raw "MPN" := sameRaw _ (by decide)
  unfold readLink
  simp only [Payload.pk, Payload.text, Payload.field_eq, manufacturer, mpn,
    Payload.noted_congr _ _ samePartial manufacturer, Payload.noted_congr _ _ samePartial mpn]

theorem held_apart_from_link (input : SupplierPartInput) (link : Option ManufacturerLink) :
    ∀ field ∈ form, field.held { input with manufacturerLink := link } = field.held input := by
  simp only [form, columns, List.map_cons, List.map_nil, List.cons_append, List.nil_append,
    List.forall_mem_cons]
  exact ⟨rfl, rfl, rfl, rfl, rfl, rfl, rfl, rfl, rfl, rfl, List.forall_mem_nil _⟩

theorem describes_create : form.Describes linkKeys readCreate where
  keys_once := keys_once
  violations payload := by
    refine ⟨(readLink payload).violations, ?_, fun _ => field_of_link⟩
    rw [create_violations, (is_read_update payload).violations]
  values payload field member := by
    rw [read_create_eq, held_apart_from_link _ _ field member]
    exact (is_read_update payload).values field member
  congr a b samePartial sameRaw := by
    have update : readUpdate a = readUpdate b :=
      (is_read_update a).congr decides (is_read_update b) samePartial fun key known =>
        sameRaw key (.inl known)
    have link : readLink a = readLink b :=
      read_link_congr samePartial fun key aside => sameRaw key (.inr aside)
    rw [read_create_eq, read_create_eq, update, link]

end SupplierPartInput

/-! ## All payloads -/

/-- Every reader reports all that is wrong, each under its own key, and keeps under a key only what
stands there. -/
theorem payloads_are_read_field_by_field :
    (∀ table, (CompanyChanges.form table).TakesPartial (CompanyChanges.parse table)) ∧
      ManufacturerPartChanges.form.TakesPartial ManufacturerPartChanges.parse ∧
      ParameterChanges.form.TakesPartial ParameterChanges.parse ∧
      (∀ table, (PriceBreakChanges.form table).TakesPartial (PriceBreakChanges.parse table)) ∧
      SupplierPartInput.form.TakesPartial SupplierPartInput.parseUpdate ∧
      SupplierPartInput.form.Governs ["manufacturer", "MPN"] false
        SupplierPartInput.parseCreate := by
  refine ⟨?_, ?_, ?_, ?_, ?_, ?_⟩
  · intro table
    exact (CompanyChanges.describes table).takes_partial (CompanyChanges.decides table)
  · exact ManufacturerPartChanges.describes.takes_partial ManufacturerPartChanges.decides
  · exact ParameterChanges.describes.takes_partial ParameterChanges.decides
  · intro table
    exact (PriceBreakChanges.describes table).takes_partial (PriceBreakChanges.decides table)
  · exact SupplierPartInput.describes_update.takes_partial SupplierPartInput.decides
  · exact SupplierPartInput.describes_create.governs false

example :
    ServiceError.fieldErrors (ParameterChanges.parse false
        (.object [("value", .null), ("units", .array []), ("colour", .null)])) =
      ⟨[("manufacturer_part", ["This field is required."]), ("name", ["This field is required."]),
        ("units", ["Not a valid string."]), ("value", ["This field may not be null."])]⟩ := by
  decide +kernel

end SupplyCatalog
