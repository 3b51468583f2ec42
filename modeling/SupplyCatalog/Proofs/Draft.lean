import SupplyCatalog.Proofs.Reading
import SupplyCatalog.Proofs.Validation

/-!
# What drafts carry out

Every draft of a write on a sound database carries out changes that are allowed, and its answer is
there. A draft that does not come about has told its client why.
-/

namespace SupplyCatalog

/-- The draft carries out the changes, and what is read for its answer is there. -/
structure Draft.CarriesOut {α : Type} (draft : Draft α) (database : Database)
    (changes : List Change) (file : Option (String × Bytes)) : Prop where
  allowed : Change.AreAllowed database changes
  result : draft.database = Change.applyAll database changes
  file : draft.file = file
  answered : ∃ answer, draft.answer = .ok answer

/-! ## Rows that are new -/

theorem ManufacturerPart.FitsIn.keyed {row : ManufacturerPart} {database : Database}
    (fits : row.FitsIn database) (unplaced : row.pk = 0) :
    (database.manufacturerParts.keyed row).FitsIn database :=
  ⟨fits.part, fits.manufacturer, Table.is_free_for_keyed fits.free unplaced rfl⟩

theorem Parameter.FitsIn.keyed {row : Parameter} {database : Database}
    (fits : row.FitsIn database) (unplaced : row.pk = 0) :
    (database.parameters.keyed row).FitsIn database :=
  ⟨fits.stands, Table.is_free_for_keyed fits.free unplaced rfl⟩

theorem PriceBreak.FitsIn.keyed {row : PriceBreak} {database : Database}
    (fits : row.FitsIn database) (unplaced : row.pk = 0) :
    (database.priceBreaks.keyed row).FitsIn database := by
  refine ⟨fits.stands, Table.is_free_for_keyed fits.free unplaced rfl, ?_⟩
  change database.priceBreaks.keyed row.kept = database.priceBreaks.keyed row
  rw [fits.short]

/-! ## Companies -/

def CompanyChanges.created (changes : CompanyChanges) (path : Option String) : Company :=
  { changes.create with image := path }

/-- The path of a company's image after an update; a new image wins over the wish to have none. -/
def Company.imageAfter (company : Company) (changes : CompanyChanges)
    (image : Option CompanyImage) : Option String :=
  match image with
  | some image => some (CompanyImage.path company.pk image.format)
  | none => if changes.clearImage then none else company.image

def Company.changed (company : Company) (changes : CompanyChanges)
    (image : Option CompanyImage) : Company :=
  { changes.applyTo company with image := company.imageAfter changes image }

def CompanyImage.file (pk : Int) (image : CompanyImage) : String × Bytes :=
  (CompanyImage.path pk image.format, image.bytes)

namespace Database

variable {database : Database}

theorem yields_new_company (changes : CompanyChanges) (image : Option CompanyImage) :
    let file := image.map (CompanyImage.file database.companies.nextPk)
    Yields (database.draftNewCompany changes image) fun draft =>
      draft.CarriesOut database [.writeCompany (.add (changes.created (file.map (·.1))))] file := by
  intro file
  apply Yields.bind (database.yields_check_name changes.create)
  intro _ free
  have fits : (database.companies.keyed changes.create).FitsIn database :=
    Table.is_free_for_keyed free rfl rfl
  apply Yields.bind_ok (Clauses.insert_eq_ok _ fits.taken)
  have present (row : Company) :
      (database.companies.insert row).contains database.companies.nextPk = true :=
    (Table.contains_insert _ _ _).2 (.inr rfl)
  cases image with
  | none =>
      exact .ok {
        allowed := ⟨⟨trivial, fits⟩, trivial⟩
        result := rfl
        file := rfl
        answered := get_company_ok (present _) }
  | some image =>
      have replaced := database.companies.replace_insert changes.create
        (changes.created (some (CompanyImage.path database.companies.nextPk image.format)))
      refine .ok {
        allowed := ⟨⟨trivial, fits⟩, trivial⟩
        result := ?_
        file := rfl
        answered := get_company_ok ?_ }
      · exact congrArg (fun table => { database with companies := table }) replaced
      · exact (Table.contains_replace _ _ _).2 (present _)

theorem yields_changed_company {company : Company}
    (found : database.companies.find? company.pk = some company) (changes : CompanyChanges)
    (image : Option CompanyImage) :
    Yields (database.draftChangedCompany company changes image) fun draft =>
      draft.CarriesOut database [.writeCompany (.set (company.changed changes image))]
        (image.map (CompanyImage.file company.pk)) ∧
      draft.answer = draft.database.getCompany company.pk := by
  apply Yields.bind (database.yields_check_name (changes.applyTo company))
  intro _ free
  have fits : (changes.applyTo company).FitsIn database := free
  apply Yields.bind_ok (Clauses.replace_eq_ok _ fits.taken)
  have there : database.companies.contains company.pk = true := Table.contains_of_find found
  have present (row : Company) : (database.companies.replace row).contains company.pk = true :=
    (Table.contains_replace _ _ _).2 there
  have allowed : Change.AreAllowed database
      [.writeCompany (.set (company.changed changes image))] :=
    ⟨⟨there, free⟩, trivial⟩
  cases image with
  | some image =>
      refine .ok ⟨⟨allowed, ?_, rfl, get_company_ok ?_⟩, rfl⟩
      · have replaced := database.companies.replace_replace (changes.applyTo company)
          (company.changed changes (some image)) rfl
        exact congrArg (fun table => { database with companies := table }) replaced
      · exact (Table.contains_replace _ _ _).2 (present _)
  | none =>
      cases clear : changes.clearImage with
      | false =>
          have kept : company.changed changes none = changes.applyTo company := by
            simp [Company.changed, Company.imageAfter, clear, CompanyChanges.applyTo]
          refine .ok ⟨⟨allowed, ?_, rfl, get_company_ok (present _)⟩, rfl⟩
          rw [kept]
          rfl
      | true =>
          have dropped : company.changed changes none =
              { changes.applyTo company with image := none } := by
            simp [Company.changed, Company.imageAfter, clear]
          have replaced := database.companies.replace_replace (changes.applyTo company)
            (company.changed changes none) rfl
          refine .ok ⟨⟨allowed, ?_, rfl, get_company_ok ?_⟩, rfl⟩
          · rw [dropped] at replaced ⊢
            exact congrArg (fun table => { database with companies := table }) replaced
          · exact (Table.contains_replace _ _ _).2 (present _)

/-! ## Manufacturer parts -/

theorem yields_add_manufacturer_part {row : ManufacturerPart} (unplaced : row.pk = 0) :
    Yields (database.addManufacturerPart row) fun made =>
      (database.manufacturerParts.keyed row).FitsIn database ∧
        made = (database.manufacturerParts.keyed row,
          { database with manufacturerParts := database.manufacturerParts.insert row }) := by
  apply Yields.bind (yields_check _)
  intro _ none
  have fits := ((database.manufacturer_part_violations_eq_nil_iff row).1 none).keyed unplaced
  apply Yields.bind_ok (Clauses.insert_eq_ok _ fits.taken)
  exact .ok ⟨fits, rfl⟩

theorem yields_new_manufacturer_part (changes : ManufacturerPartChanges) :
    Yields (database.draftNewManufacturerPart changes) fun draft =>
      draft.CarriesOut database [.writeManufacturerPart (.add changes.create)] none := by
  apply Yields.bind (yields_add_manufacturer_part rfl)
  intro _ holds
  rcases holds with ⟨fits, rfl⟩
  have place : (Write.add changes.create).HasPlace database.manufacturerParts := trivial
  exact .ok {
    allowed := ⟨⟨place, fits⟩, trivial⟩
    result := rfl
    file := rfl
    answered :=
      manufacturer_part_bundle_ok (fits.stands.mono (retains_manufacturer_part place)) }

theorem yields_changed_manufacturer_part (pk : Int) (changes : ManufacturerPartChanges) :
    Yields (database.draftChangedManufacturerPart pk changes) fun draft =>
      ∃ row, database.manufacturerParts.find? pk = some row ∧
        draft.CarriesOut database [.writeManufacturerPart (.set (changes.applyTo row))] none := by
  apply Yields.bind (Table.yields_wanted _ _ _)
  intro row found
  apply Yields.bind (yields_check _)
  intro _ none
  have fits := (database.manufacturer_part_violations_eq_nil_iff (changes.applyTo row)).1 none
  apply Yields.bind_ok (Clauses.replace_eq_ok _ fits.taken)
  have place : (Write.set (changes.applyTo row)).HasPlace database.manufacturerParts :=
    Write.has_place_of_find found rfl
  exact .ok ⟨row, found, {
    allowed := ⟨⟨place, fits⟩, trivial⟩
    result := rfl
    file := rfl
    answered :=
      manufacturer_part_bundle_ok (fits.stands.mono (retains_manufacturer_part place)) }⟩

theorem yields_without_manufacturer_part (pk : Int) :
    Yields (database.draftWithoutManufacturerPart pk) fun draft =>
      database.manufacturerParts.contains pk = true ∧
        draft.CarriesOut database [.removeManufacturerPart pk] none := by
  apply Yields.bind (Table.yields_discard_wanted _ _ _)
  intro _ present
  exact .ok ⟨present, ⟨trivial, trivial⟩, rfl, rfl, (), rfl⟩

/-! ## Parameters -/

theorem yields_new_parameter (sound : database.IsSound) (changes : ParameterChanges) :
    Yields (database.draftNewParameter changes) fun draft =>
      draft.CarriesOut database [.writeParameter (.add changes.create)] none := by
  apply Yields.bind (yields_check _)
  intro _ none
  have fits := ((database.parameter_violations_eq_nil_iff changes.create).1 none).keyed rfl
  apply Yields.bind_ok (Clauses.insert_eq_ok _ fits.taken)
  have allowed : (Change.writeParameter (.add changes.create)).IsAllowed database :=
    ⟨trivial, fits⟩
  exact .ok {
    allowed := ⟨allowed, trivial⟩
    result := rfl
    file := rfl
    answered := parameter_bundle_ok (sound.references.apply allowed) fits.stands }

theorem yields_changed_parameter (sound : database.IsSound) (pk : Int)
    (changes : ParameterChanges) :
    Yields (database.draftChangedParameter pk changes) fun draft =>
      ∃ row, database.parameters.find? pk = some row ∧
        draft.CarriesOut database [.writeParameter (.set (changes.applyTo row))] none := by
  apply Yields.bind (Table.yields_wanted _ _ _)
  intro row found
  apply Yields.bind (yields_check _)
  intro _ none
  have fits := (database.parameter_violations_eq_nil_iff (changes.applyTo row)).1 none
  apply Yields.bind_ok (Clauses.replace_eq_ok _ fits.taken)
  have allowed : (Change.writeParameter (.set (changes.applyTo row))).IsAllowed database :=
    ⟨Write.has_place_of_find found rfl, fits⟩
  exact .ok ⟨row, found, {
    allowed := ⟨allowed, trivial⟩
    result := rfl
    file := rfl
    answered := parameter_bundle_ok (sound.references.apply allowed) fits.stands }⟩

theorem yields_without_parameter (pk : Int) :
    Yields (database.draftWithoutParameter pk) fun draft =>
      database.parameters.contains pk = true ∧
        draft.CarriesOut database [.removeParameter pk] none := by
  apply Yields.bind (Table.yields_discard_wanted _ _ _)
  intro _ present
  exact .ok ⟨present, ⟨trivial, trivial⟩, rfl, rfl, (), rfl⟩

end Database

/-! ## Price breaks -/

def PriceBreakChanges.created (changes : PriceBreakChanges) (currencies : CurrencyTable)
    (now : Instant) : PriceBreak :=
  ({ changes.create currencies with updated := some now } : PriceBreak).kept

def PriceBreak.changed (row : PriceBreak) (changes : PriceBreakChanges) (now : Instant) :
    PriceBreak :=
  ({ changes.applyTo row with updated := some now } : PriceBreak).kept

namespace Database

variable {database : Database}

theorem yields_new_price_break (sound : database.IsSound) (changes : PriceBreakChanges)
    (currencies : CurrencyTable) (now : Instant) :
    Yields (database.draftNewPriceBreak changes currencies now) fun draft =>
      draft.CarriesOut database [.writePriceBreak (.add (changes.created currencies now))]
        none := by
  apply Yields.bind (yields_check _)
  intro _ none
  have fits := ((database.price_break_violations_eq_nil_iff _).1 none).keyed rfl
  apply Yields.bind_ok (Clauses.insert_eq_ok _ (fits.taken sound.decimals))
  have allowed : (Change.writePriceBreak
      (.add (changes.created currencies now))).IsAllowed database :=
    ⟨trivial, fits⟩
  exact .ok {
    allowed := ⟨allowed, trivial⟩
    result := rfl
    file := rfl
    answered := price_break_bundle_ok (sound.references.apply allowed) fits.stands }

theorem yields_changed_price_break (sound : database.IsSound) (pk : Int)
    (changes : PriceBreakChanges) (now : Instant) :
    Yields (database.draftChangedPriceBreak pk changes now) fun draft =>
      ∃ row, database.priceBreaks.find? pk = some row ∧
        draft.CarriesOut database [.writePriceBreak (.set (row.changed changes now))] none := by
  apply Yields.bind (Table.yields_wanted _ _ _)
  intro row found
  apply Yields.bind (yields_check _)
  intro _ none
  have fits := (database.price_break_violations_eq_nil_iff _).1 none
  apply Yields.bind_ok (Clauses.replace_eq_ok _ (fits.taken sound.decimals))
  have allowed : (Change.writePriceBreak (.set (row.changed changes now))).IsAllowed database :=
    ⟨Write.has_place_of_find found rfl, fits⟩
  exact .ok ⟨row, found, {
    allowed := ⟨allowed, trivial⟩
    result := rfl
    file := rfl
    answered := price_break_bundle_ok (sound.references.apply allowed) fits.stands }⟩

theorem yields_without_price_break (pk : Int) :
    Yields (database.draftWithoutPriceBreak pk) fun draft =>
      database.priceBreaks.contains pk = true ∧
        draft.CarriesOut database [.removePriceBreak pk] none := by
  apply Yields.bind (Table.yields_discard_wanted _ _ _)
  intro _ present
  exact .ok ⟨present, ⟨trivial, trivial⟩, rfl, rfl, (), rfl⟩

end Database

/-! ## Attachments -/

/-- The file of an attachment, at a path that is free. -/
def AttachmentInput.stored (input : AttachmentInput) (owner : AttachmentOwner)
    (path : String → String) : Option (String × Bytes) :=
  input.file.map fun file => (path (owner.storagePath file.name), file.content)

def AttachmentInput.created (input : AttachmentInput) (owner : AttachmentOwner)
    (path : String → String) (today : Date) : Attachment where
  pk := 0
  owner := owner
  path := (input.stored owner path).map (·.1)
  link := input.link
  comment := input.comment
  uploadDate := today
  user := none

theorem Database.yields_new_attachment {database : Database} (owner : AttachmentOwner)
    (input : AttachmentInput) (path : String → String) (today : Date) :
    Yields (database.draftNewAttachment owner input path today) fun draft =>
      draft.CarriesOut database [.addAttachment (input.created owner path today)]
        (input.stored owner path) := by
  apply Yields.bind (yields_check _)
  intro _ none
  have owned := (database.owner_violations_eq_nil_iff owner).1 none
  apply Yields.bind_ok (Clauses.insert_eq_ok _ (Attachment.taken_of_owner owned _))
  exact .ok ⟨⟨owned, trivial⟩, rfl, rfl, _, rfl⟩

end SupplyCatalog
