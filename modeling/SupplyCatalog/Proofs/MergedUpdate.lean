import SupplyCatalog.Proofs.PayloadForm

/-!
# Updates one after the other

Two partial updates have the effect of a single one, in which the keys of the second override those
of the first. So a field keeps what it was given last, and what it showed before if no update
mentions it.
-/

namespace SupplyCatalog

namespace Json

/-- All fields of both objects, those of the later one in place of those of the earlier one. -/
def override (earlier : List (String × Json)) : List (String × Json) → List (String × Json)
  | [] => earlier
  | field :: rest => setField (override earlier rest) field.1 field.2

theorem lookup_cons (field : String × Json) (rest : List (String × Json)) (key : String) :
    lookup (field :: rest) key = if field.1 = key then some field.2 else lookup rest key := by
  unfold lookup
  by_cases same : field.1 = key
  · rw [List.find?_cons_of_pos (by simpa using same), if_pos same]
    rfl
  · rw [List.find?_cons_of_neg (by simpa using same), if_neg same]

theorem lookup_set_field (fields : List (String × Json)) (key other : String) (value : Json) :
    lookup (setField fields key value) other =
      if key = other then some value else lookup fields other := by
  induction fields with
  | nil => exact lookup_cons (key, value) [] other
  | cons field rest induction =>
      unfold setField
      split
      · rename_i found
        rw [lookup_cons, lookup_cons, found]
        split <;> rfl
      · rename_i different
        rw [lookup_cons, induction, lookup_cons]
        by_cases here : field.1 = other
        · rw [if_pos here, if_pos here, if_neg (here ▸ Ne.symm different)]
        · rw [if_neg here, if_neg here]

theorem lookup_override (earlier later : List (String × Json)) (key : String) :
    lookup (override earlier later) key = (lookup later key).or (lookup earlier key) := by
  induction later with
  | nil => rfl
  | cons field rest induction =>
      rw [override, lookup_set_field, lookup_cons, induction]
      split <;> rfl

end Json

/-- Updates compose. A record is made up of the columns that payloads may give and of a part that
stays apart from them. -/
structure ComposesUpdates {C R A : Type} (parse : Json → Except ServiceError C)
    (applyTo : C → R → R) (columns : List (Column C R)) (apart : R → A) : Prop where
  determined : ∀ row other, apart row = apart other →
    (∀ column ∈ columns, column.shown row = column.shown other) → row = other
  merged : ∀ first second a b, parse (.object first) = .ok a → parse (.object second) = .ok b →
    ∃ both, parse (.object (Json.override first second)) = .ok both ∧
      ∀ row, applyTo both row = applyTo b (applyTo a row)
  commutes : ∀ first second a b, parse (.object first) = .ok a → parse (.object second) = .ok b →
    (∀ key, Json.lookup first key = none ∨ Json.lookup second key = none) →
      ∀ row, applyTo b (applyTo a row) = applyTo a (applyTo b row)
  nothing : ∃ none, parse (.object []) = .ok none ∧ ∀ row, applyTo none row = row
  unmentioned : ∀ fields changes, parse (.object fields) = .ok changes → ∀ row,
    apart (applyTo changes row) = apart row ∧
      ∀ column ∈ columns, Json.lookup fields column.key = none →
        column.shown (applyTo changes row) = column.shown row

/-- What is given takes the place of what is shown, column by column, and the rest of the record
stays. -/
structure SetsColumns {C R A : Type} (applyTo : C → R → R) (columns : List (Column C R))
    (apart : R → A) : Prop where
  determined : ∀ row other, apart row = apart other →
    (∀ column ∈ columns, column.shown row = column.shown other) → row = other
  apart : ∀ changes row, apart (applyTo changes row) = apart row
  shown : ∀ changes row, ∀ column ∈ columns,
    column.shown (applyTo changes row) = (column.given changes).getD (column.shown row)

/-! ## One key of two objects -/

namespace Payload

variable {α : Type} {read : Json → Checked α} {required isPartial : Bool}

theorem given_of_no_fault {value : Json}
    (fine : fault required isPartial read (some value) = none) :
    ∃ result, given read (some value) = some result := by
  unfold fault at fine
  unfold given
  dsimp only at fine
  rw [Option.bind_some]
  cases outcome : read value with
  | ok result => exact ⟨result, rfl⟩
  | error cause =>
      rw [outcome] at fine
      cases fine

variable {earlier later : List (String × Json)} {key : String}

theorem fault_override
    (fineBefore : fault required isPartial read (Json.lookup earlier key) = none)
    (fineAfter : fault required isPartial read (Json.lookup later key) = none) :
    fault required isPartial read (Json.lookup (Json.override earlier later) key) = none := by
  rw [Json.lookup_override]
  cases there : Json.lookup later key with
  | none => exact fineBefore
  | some value =>
      rw [there] at fineAfter
      exact fineAfter

/-- What is read under a key is what the later object has there, or else the earlier one. -/
theorem given_override (fine : fault required isPartial read (Json.lookup later key) = none) :
    given read (Json.lookup (Json.override earlier later) key) =
      (given read (Json.lookup later key)).or (given read (Json.lookup earlier key)) := by
  rw [Json.lookup_override]
  cases there : Json.lookup later key with
  | none => rfl
  | some value =>
      rw [there] at fine
      obtain ⟨result, given⟩ := given_of_no_fault fine
      rw [Option.some_or, given, Option.some_or]

end Payload

/-! ## Whole objects -/

namespace Form

variable {C R A : Type} {form : Form C} {read : Payload → Noted C} {columns : List (Column C R)}
  {applyTo : C → R → R} {apart : R → A}

theorem Describes.accepted_iff (describes : form.Describes [] read) (isPartial : Bool)
    (fields : List (String × Json)) :
    (∃ changes, parsed read isPartial (.object fields) = .ok changes) ↔
      ∀ field ∈ form, field.fault isPartial (Json.lookup fields field.key) = none := by
  have refused := describes.refused_iff isPartial fields
  unfold IsRefused at refused
  constructor
  · rintro ⟨changes, accepted⟩ field member
    by_contra wrong
    exact refused.2 ⟨field, member, wrong⟩ changes accepted
  · intro fine
    by_contra none
    obtain ⟨field, member, wrong⟩ := refused.1 (not_exists.1 none)
    exact wrong (fine field member)

variable (describes : form.Describes [] read)

include describes

theorem accepts_override {isPartial : Bool} {first second : List (String × Json)} {a b : C}
    (acceptedFirst : parsed read isPartial (.object first) = .ok a)
    (acceptedSecond : parsed read isPartial (.object second) = .ok b) :
    ∃ both, parsed read isPartial (.object (Json.override first second)) = .ok both := by
  rw [describes.accepted_iff]
  intro field member
  exact Payload.fault_override
    ((describes.accepted_iff isPartial first).1 ⟨a, acceptedFirst⟩ field member)
    ((describes.accepted_iff isPartial second).1 ⟨b, acceptedSecond⟩ field member)

/-- A partial payload may be empty. -/
theorem accepts_nothing : ∃ changes, parsed read true (.object []) = .ok changes := by
  rw [describes.accepted_iff]
  intro field _
  simp [FormField.fault, Payload.fault, Json.lookup]

variable (inForm : ∀ column ∈ columns, column.field ∈ form)

include inForm

/-- A column is given what stands under its key. -/
theorem given_eq {isPartial : Bool} {fields : List (String × Json)} {changes : C}
    (accepted : parsed read isPartial (.object fields) = .ok changes) {column : Column C R}
    (member : column ∈ columns) :
    column.given changes = Payload.given column.read (Json.lookup fields column.key) :=
  (describes.governs isPartial).values fields changes accepted column.field (inForm column member)

theorem given_none {isPartial : Bool} {fields : List (String × Json)} {changes : C}
    (accepted : parsed read isPartial (.object fields) = .ok changes) {column : Column C R}
    (member : column ∈ columns) (absent : Json.lookup fields column.key = none) :
    column.given changes = none := by
  rw [given_eq describes inForm accepted member, absent]
  rfl

theorem given_both {isPartial : Bool} {first second : List (String × Json)} {a b both : C}
    (acceptedFirst : parsed read isPartial (.object first) = .ok a)
    (acceptedSecond : parsed read isPartial (.object second) = .ok b)
    (acceptedBoth : parsed read isPartial (.object (Json.override first second)) = .ok both)
    {column : Column C R} (member : column ∈ columns) :
    column.given both = (column.given b).or (column.given a) := by
  have fine : Payload.fault column.isRequired isPartial column.read
      (Json.lookup second column.key) = none :=
    (describes.accepted_iff isPartial second).1 ⟨b, acceptedSecond⟩ column.field
      (inForm column member)
  rw [given_eq describes inForm acceptedBoth member, Payload.given_override fine,
    given_eq describes inForm acceptedSecond member, given_eq describes inForm acceptedFirst member]

theorem composes_updates (sets : SetsColumns applyTo columns apart) :
    ComposesUpdates (parsed read true) applyTo columns apart where
  determined := sets.determined
  merged first second a b acceptedFirst acceptedSecond := by
    obtain ⟨both, acceptedBoth⟩ := accepts_override describes acceptedFirst acceptedSecond
    refine ⟨both, acceptedBoth, ?_⟩
    intro row
    apply sets.determined
    · rw [sets.apart, sets.apart, sets.apart]
    · intro column member
      rw [sets.shown _ _ column member, sets.shown _ _ column member,
        sets.shown _ _ column member,
        given_both describes inForm acceptedFirst acceptedSecond acceptedBoth member]
      -- What the second update gives stands last either way.
      cases column.given b <;> rfl
  commutes first second a b acceptedFirst acceptedSecond disjoint row := by
    apply sets.determined
    · rw [sets.apart, sets.apart, sets.apart, sets.apart]
    · intro column member
      rw [sets.shown _ _ column member, sets.shown _ _ column member,
        sets.shown _ _ column member, sets.shown _ _ column member]
      rcases disjoint column.key with absent | absent
      · rw [given_none describes inForm acceptedFirst member absent]
        rfl
      · rw [given_none describes inForm acceptedSecond member absent]
        rfl
  nothing := by
    obtain ⟨none, accepted⟩ := accepts_nothing describes
    refine ⟨none, accepted, ?_⟩
    intro row
    apply sets.determined
    · exact sets.apart _ _
    · intro column member
      rw [sets.shown _ _ column member, given_none describes inForm accepted member rfl]
      rfl
  unmentioned fields changes accepted row := by
    refine ⟨sets.apart _ _, ?_⟩
    intro column member absent
    rw [sets.shown _ _ column member, given_none describes inForm accepted member absent]
    rfl

end Form

/-! ## All kinds -/

attribute [ext] Company ManufacturerPart Parameter SupplierPart PriceBreak

namespace CompanyChanges

/-- The image does not change with the fields. -/
def apart (row : Company) : Int × Option String := (row.pk, row.image)

theorem sets_columns (table : CurrencyTable) : SetsColumns applyTo (columns table) apart where
  determined row other same sameColumns := by
    simp only [columns, List.forall_mem_cons] at sameColumns
    obtain ⟨name, description, website, phone, address, email, currency, contact, link, isCustomer,
      isSupplier, isManufacturer, notes, _⟩ := sameColumns
    obtain ⟨pk, image⟩ := Prod.ext_iff.1 same
    exact Company.ext pk name description website phone address email currency contact link image
      isCustomer isSupplier isManufacturer notes
  apart _ _ := rfl
  shown changes row := by
    simp only [columns, List.forall_mem_cons]
    exact ⟨rfl, rfl, rfl, rfl, rfl, rfl, rfl, rfl, rfl, rfl, rfl, rfl, rfl, List.forall_mem_nil _⟩

end CompanyChanges

theorem ManufacturerPartChanges.sets_columns :
    SetsColumns applyTo columns ManufacturerPart.pk where
  determined row other same sameColumns := by
    simp only [columns, List.forall_mem_cons] at sameColumns
    obtain ⟨part, manufacturer, mpn, description, link, _⟩ := sameColumns
    exact ManufacturerPart.ext same part manufacturer mpn description link
  apart _ _ := rfl
  shown changes row := by
    simp only [columns, List.forall_mem_cons]
    exact ⟨rfl, rfl, rfl, rfl, rfl, List.forall_mem_nil _⟩

theorem ParameterChanges.sets_columns : SetsColumns applyTo columns Parameter.pk where
  determined row other same sameColumns := by
    simp only [columns, List.forall_mem_cons] at sameColumns
    obtain ⟨manufacturerPart, name, value, units, _⟩ := sameColumns
    exact Parameter.ext same manufacturerPart name value units
  apart _ _ := rfl
  shown changes row := by
    simp only [columns, List.forall_mem_cons]
    exact ⟨rfl, rfl, rfl, rfl, List.forall_mem_nil _⟩

namespace PriceBreakChanges

def apart (row : PriceBreak) : Int × Option Instant := (row.pk, row.updated)

theorem sets_columns (table : CurrencyTable) : SetsColumns applyTo (columns table) apart where
  determined row other same sameColumns := by
    simp only [columns, List.forall_mem_cons] at sameColumns
    obtain ⟨quantity, part, price, priceCurrency, _⟩ := sameColumns
    obtain ⟨pk, updated⟩ := Prod.ext_iff.1 same
    exact PriceBreak.ext pk part quantity price priceCurrency updated
  apart _ _ := rfl
  shown changes row := by
    simp only [columns, List.forall_mem_cons]
    exact ⟨rfl, rfl, rfl, rfl, List.forall_mem_nil _⟩

end PriceBreakChanges

namespace SupplierPartInput

def applyTo (input : SupplierPartInput) (row : SupplierPart) : SupplierPart :=
  input.changes.applyTo row

/-- The available quantity and its time are not among the fields. -/
def apart (row : SupplierPart) :
    Int × Decimal × Option Instant × String × Option Instant :=
  (row.pk, row.available, row.availabilityUpdated, row.barcodeHash, row.updated)

theorem sets_columns : SetsColumns applyTo columns apart where
  determined row other same sameColumns := by
    simp only [columns, List.forall_mem_cons] at sameColumns
    obtain ⟨packSize, part, supplier, manufacturerPart, sku, description, link, note, packaging,
      _⟩ := sameColumns
    simp only [apart, Prod.mk.injEq] at same
    obtain ⟨pk, available, availabilityUpdated, barcodeHash, updated⟩ := same
    exact SupplierPart.ext pk part supplier manufacturerPart sku description link note packaging
      packSize available availabilityUpdated barcodeHash updated
  apart _ _ := rfl
  shown changes row := by
    simp only [columns, List.forall_mem_cons]
    exact ⟨rfl, rfl, rfl, rfl, rfl, rfl, rfl, rfl, rfl, List.forall_mem_nil _⟩

theorem available_eq {isPartial : Bool} {fields : List (String × Json)} {input : SupplierPartInput}
    (accepted : parseUpdate isPartial (.object fields) = .ok input) :
    input.available = Payload.given availableField.read (Json.lookup fields "available") :=
  (describes_update.governs isPartial).values fields input accepted availableField
    (List.mem_append_right _ (List.mem_singleton_self _))

/-- The quantity that is handed on is the one of the second update, if it reports any. -/
theorem available_of_both {isPartial : Bool} {first second : List (String × Json)}
    {a b both : SupplierPartInput} (acceptedFirst : parseUpdate isPartial (.object first) = .ok a)
    (acceptedSecond : parseUpdate isPartial (.object second) = .ok b)
    (acceptedBoth : parseUpdate isPartial (.object (Json.override first second)) = .ok both) :
    both.available =
      if (Json.lookup second "available").isSome then b.available else a.available := by
  rw [available_eq acceptedBoth, available_eq acceptedSecond, available_eq acceptedFirst,
    Json.lookup_override]
  cases Json.lookup second "available" <;> rfl

end SupplierPartInput

/-- Updates of every kind compose, and a supplier part has the quantity that was reported last. -/
theorem partial_updates_compose :
    (∀ table, ComposesUpdates (CompanyChanges.parse table true) CompanyChanges.applyTo
        (CompanyChanges.columns table) CompanyChanges.apart) ∧
      ComposesUpdates (ManufacturerPartChanges.parse true) ManufacturerPartChanges.applyTo
        ManufacturerPartChanges.columns ManufacturerPart.pk ∧
      ComposesUpdates (ParameterChanges.parse true) ParameterChanges.applyTo
        ParameterChanges.columns Parameter.pk ∧
      (∀ table, ComposesUpdates (PriceBreakChanges.parse table true) PriceBreakChanges.applyTo
        (PriceBreakChanges.columns table) PriceBreakChanges.apart) ∧
      ComposesUpdates (SupplierPartInput.parseUpdate true) SupplierPartInput.applyTo
        SupplierPartInput.columns SupplierPartInput.apart ∧
      ∀ first second a b both, SupplierPartInput.parseUpdate true (.object first) = .ok a →
        SupplierPartInput.parseUpdate true (.object second) = .ok b →
        SupplierPartInput.parseUpdate true (.object (Json.override first second)) = .ok both →
          both.available =
            if (Json.lookup second "available").isSome then b.available else a.available := by
  refine ⟨?_, ?_, ?_, ?_, ?_, ?_⟩
  · intro table
    exact Form.composes_updates (CompanyChanges.describes table)
      (fun _ member => List.mem_append_left _ (List.mem_map_of_mem member))
      (CompanyChanges.sets_columns table)
  · exact Form.composes_updates ManufacturerPartChanges.describes
      (fun _ member => List.mem_map_of_mem member) ManufacturerPartChanges.sets_columns
  · exact Form.composes_updates ParameterChanges.describes
      (fun _ member => List.mem_map_of_mem member) ParameterChanges.sets_columns
  · intro table
    exact Form.composes_updates (PriceBreakChanges.describes table)
      (fun _ member => List.mem_map_of_mem member) (PriceBreakChanges.sets_columns table)
  · exact Form.composes_updates SupplierPartInput.describes_update
      (fun _ member => List.mem_append_left _ (List.mem_map_of_mem member))
      SupplierPartInput.sets_columns
  · intro first second a b both acceptedFirst acceptedSecond acceptedBoth
    exact SupplierPartInput.available_of_both acceptedFirst acceptedSecond acceptedBoth

/-- A parameter that gets a name and units, and then another name. -/
theorem renamed_parameter_keeps_its_units :
    ∃ both, ParameterChanges.parse true
        (.object [("name", .string "Height"), ("units", .string "mm")]) = .ok both ∧
      ∀ row, both.applyTo row =
        (ParameterChanges.mk none (some "Height") none none).applyTo
          ((ParameterChanges.mk none (some "Width") none (some "mm")).applyTo row) := by
  have first : ParameterChanges.parse true
      (.object [("name", .string "Width"), ("units", .string "mm")]) =
        .ok ⟨none, some "Width", none, some "mm"⟩ := by
    decide +kernel
  have second : ParameterChanges.parse true (.object [("name", .string "Height")]) =
      .ok ⟨none, some "Height", none, none⟩ := by
    decide +kernel
  exact partial_updates_compose.2.2.1.merged _ _ _ _ first second

end SupplyCatalog
