import SupplyCatalog.Proofs.Draft

/-!
# What drafts of supplier parts carry out

A supplier part is written in steps: as the request gives it, again with a quantity that is
reported, and once more with the link that is asked for, before which the manufacturer part may have
to be made. The steps together come to one write of the supplier part as it is in the end, after
that of the manufacturer part if there was none.
-/

namespace SupplyCatalog

/-! ## The rows that are written -/

def SupplierPart.reported (row : SupplierPart) (quantity : Option Decimal) (now : Instant) :
    SupplierPart :=
  match quantity with
  | none => row
  | some quantity => { row with available := quantity, availabilityUpdated := some now }

def SupplierPartInput.given (input : SupplierPartInput) (now : Instant) : SupplierPart :=
  { input.changes.create with updated := some now }

/-- The supplier part that a request creates, as it is kept, before it is linked. -/
def SupplierPartInput.created (input : SupplierPartInput) (now : Instant) : SupplierPart :=
  ((input.given now).reported input.available now).kept

def SupplierPart.linkedTo (row : SupplierPart) (manufacturerPart : Int) : SupplierPart :=
  { row with manufacturerPart := some manufacturerPart }

def SupplierPart.changed (row : SupplierPart) (input : SupplierPartInput) (now : Instant) :
    SupplierPart :=
  (({ input.changes.applyTo row with updated := some now } : SupplierPart).reported
    input.available now).kept

def ManufacturerLink.made (link : ManufacturerLink) (part : Int) : ManufacturerPart where
  pk := 0
  part := part
  manufacturer := link.manufacturer
  mpn := some link.mpn
  description := ""
  link := ""

/-- What is changed when a supplier part is created. -/
inductive SupplierPartInput.Creates (database : Database) (input : SupplierPartInput)
    (now : Instant) : List Change → Prop
  | unlinked (none : input.manufacturerLink = none) :
      Creates database input now [.writeSupplierPart (.add (input.created now))]
  | found (link : ManufacturerLink) (target : ManufacturerPart)
      (given : input.manufacturerLink = some link)
      (found : database.findManufacturerPart (input.given now).part link.manufacturer link.mpn =
        some target) :
      Creates database input now
        [.writeSupplierPart (.add ((input.created now).linkedTo target.pk))]
  | made (link : ManufacturerLink) (given : input.manufacturerLink = some link)
      (none : database.findManufacturerPart (input.given now).part link.manufacturer link.mpn =
        none) :
      Creates database input now
        [.writeManufacturerPart (.add (link.made (input.given now).part)),
          .writeSupplierPart (.add
            ((input.created now).linkedTo database.manufacturerParts.nextPk))]

theorem SupplierPart.part_reported (row : SupplierPart) (quantity : Option Decimal)
    (now : Instant) : (row.reported quantity now).part = row.part := by
  cases quantity <;> rfl

theorem SupplierPart.link_reported (row : SupplierPart) (quantity : Option Decimal)
    (now : Instant) : (row.reported quantity now).manufacturerPart = row.manufacturerPart := by
  cases quantity <;> rfl

theorem SupplierPart.designation_reported (row : SupplierPart) (quantity : Option Decimal)
    (now : Instant) : (row.reported quantity now).designation = row.designation := by
  cases quantity <;> rfl

theorem SupplierPart.pk_reported (row : SupplierPart) (quantity : Option Decimal)
    (now : Instant) : (row.reported quantity now).pk = row.pk := by
  cases quantity <;> rfl

theorem SupplierPart.pk_changed (row : SupplierPart) (input : SupplierPartInput) (now : Instant) :
    (row.changed input now).pk = row.pk :=
  pk_reported _ _ _

/-- Keeping a row first and then taking over a quantity comes to the same. -/
theorem SupplierPart.kept_reported (row : SupplierPart) (quantity : Option Decimal)
    (now : Instant) : (row.kept.reported quantity now).kept = (row.reported quantity now).kept := by
  cases quantity with
  | none => exact row.kept_kept
  | some quantity => simp [reported, kept, Decimal.normalize_normalize]

/-- The quantity that is reported has no part in how a row fits in. -/
theorem SupplierPart.FitsIn.reported {row : SupplierPart} {database : Database}
    (fits : row.kept.FitsIn database) (quantity : Option Decimal) (now : Instant) :
    (row.reported quantity now).kept.FitsIn database := by
  cases quantity with
  | none => exact fits
  | some quantity => exact ⟨fits.part, fits.supplier, fits.link, fits.free, kept_kept _⟩

namespace Database

variable {database : Database}

theorem yields_report_available (row : SupplierPart) (quantity : Option Decimal)
    (now : Instant) :
    Yields (database.reportAvailable row quantity now) fun made =>
      made.1 = row.reported quantity now ∧
        (quantity = none ∧ made.2 = database ∨
          made.2 = database.setAvailable (row.reported quantity now)) := by
  cases quantity with
  | none => exact .ok ⟨rfl, .inl ⟨rfl, rfl⟩⟩
  | some quantity =>
      cases checked : Check.minValue Decimal.zero quantity with
      | error cause =>
          simp only [reportAvailable, SupplierPart.reportAvailable, checked]
          exact status_of_violation _
      | ok passed =>
          simp only [reportAvailable, SupplierPart.reportAvailable, checked]
          exact .ok ⟨rfl, .inr rfl⟩

theorem yields_link_target (row : SupplierPart) (link : ManufacturerLink) :
    Yields (database.linkTarget row link) fun made =>
      (database.findManufacturerPart row.part link.manufacturer link.mpn = some made.1 ∧
          made.2 = database) ∨
        (database.findManufacturerPart row.part link.manufacturer link.mpn = none ∧
          (database.manufacturerParts.keyed (link.made row.part)).FitsIn database ∧
          made = (database.manufacturerParts.keyed (link.made row.part),
            { database with
              manufacturerParts := database.manufacturerParts.insert (link.made row.part) })) := by
  unfold linkTarget
  cases checked : database.companyWithRole "manufacturer" link.manufacturer .manufacturer with
  | error violation => exact status_of_violation _
  | ok manufacturer =>
      have named := ((database.company_with_role_ok_iff _ _ _ _).1 checked).1
      have key : manufacturer.pk = link.manufacturer := Table.pk_of_find named
      simp only [key]
      cases found : database.findManufacturerPart row.part link.manufacturer link.mpn with
      | some target => exact .ok (.inl ⟨rfl, rfl⟩)
      | none =>
          apply Yields.mono (yields_add_manufacturer_part rfl)
          intro made holds
          rcases holds with ⟨fits, rfl⟩
          exact .inr ⟨rfl, fits, rfl⟩

/-- A supplier part that is to be added fits in when the one that was checked does, and what it is
linked to is of its part. -/
theorem fits_in_of_checked {row new : SupplierPart} {after : Database}
    (fits : row.FitsIn database) (unplaced : row.pk = 0)
    (same : new.designation = row.designation) (short : new.kept = new)
    (parts : after.parts = database.parts) (companies : after.companies = database.companies)
    (supplierParts : after.supplierParts = database.supplierParts)
    (link : ∀ pk ∈ new.manufacturerPart, after.Designates pk new.part) :
    (database.supplierParts.keyed new).FitsIn after := by
  have part : new.part = row.part := congrArg Prod.fst same
  have supplier : new.supplier = row.supplier := congrArg (fun key => key.2.1) same
  constructor
  case part =>
    unfold Offers
    rw [parts]
    exact part ▸ fits.part
  case supplier =>
    unfold HasInRole
    rw [companies]
    exact supplier ▸ fits.supplier
  case link => exact link
  case free =>
    rw [supplierParts]
    exact Table.is_free_for_keyed fits.free unplaced same
  case short =>
    change database.supplierParts.keyed new.kept = database.supplierParts.keyed new
    rw [short]

/-- Writing a supplier part again right after it was added comes to adding it as it is then. -/
theorem replace_added {new row : SupplierPart} (old : SupplierPart) (task : String)
    (fits : (database.supplierParts.keyed new).FitsIn database)
    (kept : row.kept = database.supplierParts.keyed new) :
    replaceSupplierPart { database with supplierParts := database.supplierParts.insert old } task
        row =
      .ok { database with supplierParts := database.supplierParts.insert new } := by
  have fitsBehind : (database.supplierParts.keyed new).FitsIn
      { database with supplierParts := database.supplierParts.insert old } :=
    ⟨fits.part, fits.supplier, fits.link,
      Table.is_free_for_insert fits.free (Table.pk_keyed _ _) old, fits.short⟩
  unfold replaceSupplierPart
  rw [kept, Clauses.replace_eq_ok task fitsBehind.taken]
  exact congrArg (fun table => Except.ok { database with supplierParts := table })
    (database.supplierParts.replace_insert old new)

/-! ## Creating -/

theorem find_manufacturer_part_spec {part manufacturer : Int} {mpn : String}
    {target : ManufacturerPart}
    (found : database.findManufacturerPart part manufacturer mpn = some target) :
    database.manufacturerParts.find? target.pk = some target ∧ target.part = part ∧
      target.manufacturer = manufacturer ∧ target.mpn = some mpn := by
  have member := List.mem_of_find?_eq_some found
  have passes := List.find?_some found
  simp only [Bool.and_eq_true, beq_iff_eq] at passes
  rcases passes with ⟨⟨samePart, sameManufacturer⟩, sameMpn⟩
  exact ⟨(Table.find_eq_some_iff _ _ _).2 ⟨member, rfl⟩, samePart, sameManufacturer, sameMpn⟩

section Creating

variable {input : SupplierPartInput} {now : Instant}

theorem fits_in_linked {after : Database} {manufacturerPart : Int}
    (designates : after.Designates manufacturerPart (input.given now).part)
    (fits : (input.given now).kept.FitsIn database)
    (parts : after.parts = database.parts) (companies : after.companies = database.companies)
    (supplierParts : after.supplierParts = database.supplierParts) :
    (database.supplierParts.keyed ((input.created now).linkedTo manufacturerPart)).FitsIn
      after := by
  refine fits_in_of_checked fits rfl ?_ ?_ parts companies supplierParts ?_
  · exact SupplierPart.designation_reported _ _ _
  · exact congrArg (fun row => SupplierPart.linkedTo row manufacturerPart)
      (SupplierPart.kept_kept _)
  · intro pk linked
    cases linked
    have part : (input.created now).part = (input.given now).part :=
      SupplierPart.part_reported _ _ _
    exact part ▸ designates

theorem fits_in_created (fits : (input.given now).kept.FitsIn database) :
    (database.supplierParts.keyed (input.created now)).FitsIn database := by
  have part : (input.created now).part = (input.given now).part :=
    SupplierPart.part_reported _ _ _
  refine fits_in_of_checked fits rfl ?_ (SupplierPart.kept_kept _) rfl rfl rfl ?_
  · exact SupplierPart.designation_reported _ _ _
  · intro pk link
    have before : pk ∈ (input.given now).manufacturerPart := by
      rw [← SupplierPart.link_reported _ input.available now]
      exact link
    rw [part]
    exact fits.link pk before

/-- A link that does not go with the supplier part is the request's fault; any other is written. -/
theorem yields_write_link {between after : Database} {row : SupplierPart}
    {target : ManufacturerPart} {property : Database → Prop}
    (written : between.replaceSupplierPart "link manufacturer part"
      { row with manufacturerPart := some target.pk } = .ok after)
    (holds : property after) :
    Yields (if row.manufacturerPart.any (· != target.pk) then .error linkedElsewhere
      else
        match row.checkLink target with
        | .error violation => .error (.ofViolation violation)
        | .ok () =>
            between.replaceSupplierPart "link manufacturer part"
              { row with manufacturerPart := some target.pk }) property := by
  split
  · exact status_of_field _ _
  · split
    · exact status_of_violation _
    · rw [written]
      exact .ok holds

theorem yields_link {row : SupplierPart}
    (fits : (input.given now).kept.FitsIn database)
    (kept : row.kept = database.supplierParts.keyed (input.created now)) :
    Yields (linkSupplierPart
        { database with supplierParts := database.supplierParts.insert (input.created now) }
        row input.manufacturerLink)
      fun after => ∃ changes, input.Creates database now changes ∧
        Change.AreAllowed database changes ∧ after = Change.applyAll database changes := by
  have part : row.part = (input.given now).part :=
    (congrArg SupplierPart.part kept).trans (SupplierPart.part_reported _ _ _)
  have linked (pk : Int) : ({ row with manufacturerPart := some pk } : SupplierPart).kept =
      database.supplierParts.keyed ((input.created now).linkedTo pk) :=
    congrArg (fun row => SupplierPart.linkedTo row pk) kept
  cases given : input.manufacturerLink with
  | none => exact .ok ⟨_, .unlinked given, ⟨⟨trivial, fits_in_created fits⟩, trivial⟩, rfl⟩
  | some link =>
      apply Yields.bind (yields_link_target row link)
      intro target holds
      rcases target with ⟨target, between⟩
      rcases holds with ⟨found, rfl⟩ | ⟨none, fitsMade, made⟩
      · rw [part] at found
        obtain ⟨there, samePart, _⟩ := find_manufacturer_part_spec found
        have designates : database.Designates target.pk (input.given now).part :=
          ⟨target, there, samePart⟩
        have fitsLinked := fits_in_linked designates fits rfl rfl rfl
        have written := replace_added (input.created now) "link manufacturer part" fitsLinked
          (linked target.pk)
        exact yields_write_link written
          ⟨_, .found link target given found, ⟨⟨trivial, fitsLinked⟩, trivial⟩, rfl⟩
      · rw [part] at none fitsMade made
        cases made
        let between : Database :=
          { database with
            manufacturerParts :=
              database.manufacturerParts.insert (link.made (input.given now).part) }
        have designates : between.Designates database.manufacturerParts.nextPk
            (input.given now).part :=
          ⟨_, Table.find_insert_new _ _, rfl⟩
        have fitsLinked := fits_in_linked designates fits rfl rfl rfl
        have fitsBetween : (between.supplierParts.keyed
            ((input.created now).linkedTo database.manufacturerParts.nextPk)).FitsIn between :=
          fitsLinked
        have written := replace_added (input.created now) "link manufacturer part" fitsBetween
          (linked database.manufacturerParts.nextPk)
        have standsMade : (database.manufacturerParts.keyed
            (link.made (input.given now).part)).FitsIn database :=
          ⟨fitsMade.part, fitsMade.manufacturer, fitsMade.free⟩
        exact yields_write_link written
          ⟨_, .made link given none, ⟨⟨trivial, standsMade⟩, ⟨trivial, fitsLinked⟩, trivial⟩, rfl⟩

theorem kept_saved (table : Table SupplierPart) (row : SupplierPart) (quantity : Option Decimal)
    (now : Instant) :
    ((table.keyed row.kept).reported quantity now).kept =
      table.keyed (row.reported quantity now).kept := by
  have same : (table.keyed row.kept).reported quantity now =
      table.keyed (row.kept.reported quantity now) := by
    cases quantity <;> rfl
  rw [same, ← row.kept_reported]
  rfl

theorem contains_created {changes : List Change} (creates : input.Creates database now changes) :
    (Change.applyAll database changes).supplierParts.contains database.supplierParts.nextPk =
      true := by
  cases creates with
  | unlinked none => exact (Table.contains_insert _ _ _).2 (.inr rfl)
  | found link target given found => exact (Table.contains_insert _ _ _).2 (.inr rfl)
  | made link given none => exact (Table.contains_insert _ _ _).2 (.inr rfl)

theorem yields_new_supplier_part (sound : database.IsSound) :
    Yields (database.draftNewSupplierPart input now) fun draft =>
      ∃ changes, input.Creates database now changes ∧ draft.CarriesOut database changes none := by
  apply Yields.bind (yields_check _)
  intro _ none
  have fits : (input.given now).kept.FitsIn database :=
    (database.supplier_part_violations_eq_nil_iff (input.given now)).1 none
  have fitsKeyed : (database.supplierParts.keyed (input.given now).kept).FitsIn database :=
    fits_in_of_checked fits rfl rfl (SupplierPart.kept_kept _) rfl rfl rfl fits.link
  apply Yields.bind_ok (Clauses.insert_eq_ok _ fitsKeyed.taken)
  apply Yields.bind (yields_report_available _ _ _)
  intro given holds
  rcases given with ⟨saved, between⟩
  rcases holds with ⟨rfl, reported⟩
  have kept := kept_saved database.supplierParts (input.given now) input.available now
  have written : between =
      { database with supplierParts := database.supplierParts.insert (input.created now) } := by
    rcases reported with ⟨unreported, same⟩ | same
    · have created : input.created now = (input.given now).kept := by
        unfold SupplierPartInput.created
        rw [unreported]
        rfl
      rw [created]
      exact same
    · have replaced := database.supplierParts.replace_insert (input.given now).kept
        (input.created now)
      rw [show between = _ from same]
      unfold setAvailable
      dsimp only
      rw [kept]
      exact congrArg (fun table => { database with supplierParts := table }) replaced
  dsimp only
  rw [written]
  apply Yields.bind (yields_link fits kept)
  intro after holds
  rcases holds with ⟨changes, creates, allowed, rfl⟩
  have key : ((database.supplierParts.keyed (input.given now).kept).reported input.available
      now).pk = database.supplierParts.nextPk :=
    SupplierPart.pk_reported _ _ _
  refine .ok ⟨changes, creates, allowed, rfl, rfl, ?_⟩
  dsimp only
  rw [key]
  exact get_supplier_part_ok (sound.apply_all allowed).references (contains_created creates)

end Creating

/-! ## Changing and removing -/

theorem yields_changed_supplier_part (sound : database.IsSound) (pk : Int)
    (input : SupplierPartInput) (now : Instant) :
    Yields (database.draftChangedSupplierPart pk input now) fun draft =>
      ∃ row, database.supplierParts.find? pk = some row ∧
        draft.CarriesOut database [.writeSupplierPart (.set (row.changed input now))] none := by
  apply Yields.bind (Table.yields_wanted _ _ _)
  intro row found
  have key : row.pk = pk := Table.pk_of_find found
  apply Yields.bind (yields_check _)
  intro _ none
  set given : SupplierPart := { input.changes.applyTo row with updated := some now } with givenRow
  have fits : given.kept.FitsIn database :=
    (database.supplier_part_violations_eq_nil_iff given).1 none
  have replaced : database.replaceSupplierPart "update supplier part" given =
      .ok { database with supplierParts := database.supplierParts.replace given.kept } := by
    unfold replaceSupplierPart
    rw [Clauses.replace_eq_ok _ fits.taken]
    rfl
  apply Yields.bind_ok replaced
  apply Yields.bind (yields_report_available _ _ _)
  intro given holds
  rcases given with ⟨saved, between⟩
  rcases holds with ⟨rfl, reported⟩
  have written : between =
      { database with
        supplierParts := database.supplierParts.replace (row.changed input now) } := by
    rcases reported with ⟨unreported, same⟩ | same
    · have changed : row.changed input now = given.kept := by
        unfold SupplierPart.changed
        rw [unreported]
        rfl
      rw [changed]
      exact same
    · have again := database.supplierParts.replace_replace given.kept (row.changed input now)
        (SupplierPart.pk_reported given input.available now).symm
      rw [show between = _ from same]
      exact congrArg (fun table => { database with supplierParts := table }) again
  have allowed : (Change.writeSupplierPart (.set (row.changed input now))).IsAllowed database :=
    ⟨Write.has_place_of_find found (row.pk_changed input now),
      fits.reported input.available now⟩
  dsimp only
  rw [written]
  refine .ok ⟨row, found, ⟨allowed, trivial⟩, rfl, rfl, ?_⟩
  apply get_supplier_part_ok (sound.references.apply allowed)
  apply (Table.contains_replace _ _ _).2
  exact Table.contains_of_find found

theorem yields_without_supplier_part (pk : Int) :
    Yields (database.draftWithoutSupplierPart pk) fun draft =>
      database.supplierParts.contains pk = true ∧
        draft.CarriesOut database [.removeSupplierPart pk] none := by
  apply Yields.bind (Table.yields_discard_wanted _ _ _)
  intro _ present
  exact .ok ⟨present, ⟨trivial, trivial⟩, rfl, rfl, (), rfl⟩

end Database

end SupplyCatalog
