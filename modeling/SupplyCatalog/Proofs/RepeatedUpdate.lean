import SupplyCatalog.Proofs.ImageFile

/-!
# Updates made twice

An update that succeeds can be made again at once, and then changes nothing but the times that it
writes. The second one meets the row as the first one left it, which has its own designation, refers
to what it referred to before and names the path at which the same image is kept.
-/

namespace SupplyCatalog

/-- An update of one row, with all that it is given but the time. -/
inductive Update
  | company (pk : Int) (changes : CompanyChanges) (image : Option CompanyImage)
  | manufacturerPart (pk : Int) (changes : ManufacturerPartChanges)
  | parameter (pk : Int) (changes : ParameterChanges)
  | supplierPart (pk : Int) (input : SupplierPartInput)
  | priceBreak (pk : Int) (changes : PriceBreakChanges)

def Update.made (now : Instant) : Update → Operation
  | company pk changes image => .updateCompany pk changes image
  | manufacturerPart pk changes => .updateManufacturerPart pk changes
  | parameter pk changes => .updateParameter pk changes
  | supplierPart pk input => .updateSupplierPart pk input now
  | priceBreak pk changes => .updatePriceBreak pk changes now

/-! ## Times -/

/-- The row with a key changed in some way that leaves its key alone. -/
def Table.revise {α : Type} [Keyed α] (table : Table α) (pk : Int) (change : α → α)
    (same : ∀ row, Keyed.pk (change row) = Keyed.pk row) : Table α :=
  table.mapRows (fun row => if Keyed.pk row = pk then change row else row) (by
    intro row
    split
    · exact same row
    · rfl)

/-- The supplier part with the time of an update; the report has a new time if there is one. -/
def SupplierPart.dated (row : SupplierPart) (input : SupplierPartInput) (now : Instant) :
    SupplierPart :=
  { row with
    updated := some now
    availabilityUpdated :=
      if input.available.isSome then some now else row.availabilityUpdated }

def PriceBreak.dated (row : PriceBreak) (now : Instant) : PriceBreak :=
  { row with updated := some now }

/-- The database with the time of an update in the row that it is about. Companies, manufacturer
parts and parameters show no times. -/
def Update.dated (database : Database) (now : Instant) : Update → Database
  | supplierPart pk input =>
      { database with
        supplierParts :=
          database.supplierParts.revise pk (·.dated input now) fun _ => rfl }
  | priceBreak pk _ =>
      { database with
        priceBreaks := database.priceBreaks.revise pk (·.dated now) fun _ => rfl }
  | _ => database

/-! ## Rows that are changed twice -/

theorem get_d_again {α : Type} (given : Option α) (value : α) :
    given.getD (given.getD value) = given.getD value := by
  cases given <;> rfl

theorem Company.changed_again (company : Company) (changes : CompanyChanges)
    (image : Option CompanyImage) :
    (company.changed changes image).changed changes image = company.changed changes image := by
  have images : (company.changed changes image).imageAfter changes image =
      company.imageAfter changes image := by
    cases image with
    | some picture => rfl
    | none => cases clear : changes.clearImage <;> simp [changed, imageAfter, clear]
  rw [changed, images]
  simp only [changed, CompanyChanges.applyTo, get_d_again]

theorem ManufacturerPart.changed_again (row : ManufacturerPart)
    (changes : ManufacturerPartChanges) :
    changes.applyTo (changes.applyTo row) = changes.applyTo row := by
  simp only [ManufacturerPartChanges.applyTo, get_d_again]

theorem Parameter.changed_again (row : Parameter) (changes : ParameterChanges) :
    changes.applyTo (changes.applyTo row) = changes.applyTo row := by
  simp only [ParameterChanges.applyTo, get_d_again]

theorem Decimal.normalize_again (given : Option Decimal) (value : Decimal) :
    (given.getD (given.getD value).normalize).normalize = (given.getD value).normalize := by
  cases given with
  | none => exact value.normalize_normalize
  | some other => rfl

theorem SupplierPart.changed_again (row : SupplierPart) (input : SupplierPartInput)
    (now later : Instant) :
    (row.changed input now).changed input later = (row.changed input now).dated input later := by
  obtain ⟨changes, available, link⟩ := input
  cases available with
  | none =>
      simp [changed, reported, kept, dated, SupplierPartChanges.applyTo, get_d_again,
        Decimal.normalize_again, Decimal.normalize_normalize]
  | some quantity =>
      simp [changed, reported, kept, dated, SupplierPartChanges.applyTo, get_d_again,
        Decimal.normalize_again]

theorem PriceBreak.changed_again (row : PriceBreak) (changes : PriceBreakChanges)
    (now later : Instant) :
    (row.changed changes now).changed changes later = (row.changed changes now).dated later := by
  have prices : (changes.price.getD ((changes.price.getD row.price).map (·.normalize))).map
      (·.normalize) = (changes.price.getD row.price).map (·.normalize) := by
    cases changes.price with
    | none => cases row.price <;> simp [Decimal.normalize_normalize]
    | some price => rfl
  simp only [changed, kept, dated, PriceBreakChanges.applyTo, get_d_again,
    Decimal.normalize_again, prices]

/-! ## Rows that have been written -/

namespace Table

variable {α κ : Type} [Keyed α] {table : Table α}

/-- A row that has been written keeps its designation to itself. -/
theorem is_free_for_replace {key : α → κ} {row other : α} (free : table.IsFreeFor key row)
    (samePk : Keyed.pk other = Keyed.pk row) (same : key other = key row) :
    (table.replace row).IsFreeFor key other := by
  intro third member different
  rw [samePk] at different
  rw [same]
  rcases (table.mem_replace row third).1 member with ⟨old, _⟩ | ⟨rfl, _⟩
  · exact free third old different
  · exact absurd rfl different

theorem replace_of_find {pk : Int} {row : α} (found : table.find? pk = some row)
    (change : α → α) (same : ∀ row, Keyed.pk (change row) = Keyed.pk row) :
    table.replace (change row) = table.revise pk change same := by
  have key := pk_of_find found
  apply map_rows_congr
  intro old member
  rw [same row, key]
  split
  · rename_i here
    rw [table.row_eq_of_pk_eq member (mem_of_find found) (here.trans key.symm)]
  · rfl

theorem replace_self {pk : Int} {row : α} (found : table.find? pk = some row) :
    table.replace row = table := by
  have revised := replace_of_find found (fun old => old) fun _ => rfl
  rw [revised]
  apply map_rows_id
  intro old _
  split <;> rfl

end Table

/-! ## Files that have been written -/

namespace MediaTree

variable {tree after : MediaTree} {path : MediaPath} {content : Bytes}

/-- The file is there, in its directories, and can be written over. -/
structure Holds (tree : MediaTree) (path : MediaPath) (content : Bytes) : Prop where
  reads : tree.read? path = some content
  noFile : ∀ directory ∈ path.around, tree.isFile directory = false
  directories : ∀ directory ∈ path.around, tree.isDirectory directory = true
  noDirectory : tree.isDirectory path = false
  wayFits : ∀ directory ∈ path.around, nameFits directory = true
  fits : nameFits path = true

theorem set_file_of_read {files : List (MediaPath × Bytes)} {directories : List MediaPath}
    (reads : (⟨files, directories⟩ : MediaTree).read? path = some content) :
    setFile path content files = files := by
  induction files with
  | nil => cases reads
  | cons file rest induction =>
      unfold read? at reads induction
      rw [setFile]
      by_cases own : file.1 = path
      · rw [List.find?_cons_of_pos (by simpa using own)] at reads
        obtain rfl : file.2 = content := Option.some.inj reads
        rw [if_pos own, ← own]
      · rw [List.find?_cons_of_neg (by simpa using own)] at reads
        rw [if_neg own, induction reads]

theorem is_directory_opened {directory : MediaPath} (member : directory ∈ path.around)
    (files : List (MediaPath × Bytes)) :
    (⟨files, tree.directories ++
      path.around.filter fun directory => !tree.isDirectory directory⟩ : MediaTree).isDirectory
        directory = true := by
  unfold isDirectory
  by_cases root : directory.isEmpty = true
  · rw [root]
    rfl
  · by_cases old : directory ∈ tree.directories
    · simp [old]
    · simp [old, member, root]

theorem Holds.write (holds : tree.Holds path content) :
    tree.write path content = (.ok (), tree) := by
  have opened : tree.makeDirectory path.dropLast = (.ok (), tree) := by
    rw [make_directory_eq_ok_iff]
    refine ⟨holds.noFile, holds.wayFits, ?_⟩
    have none : path.around.filter (fun directory => !tree.isDirectory directory) = [] := by
      rw [List.filter_eq_nil_iff]
      intro directory member
      simp [holds.directories directory member]
    rw [none, List.append_nil]
  have same : setFile path content tree.files = tree.files :=
    set_file_of_read holds.reads
  refine write_eq_ok_iff.2 ⟨tree, opened, holds.noDirectory, holds.fits, ?_⟩
  rw [same]

theorem Holds.erase (holds : tree.Holds path content) {other : MediaPath}
    (different : path ≠ other) : (tree.erase other).Holds path content where
  reads := by
    rw [read_erase, if_neg different]
    exact holds.reads
  noFile directory member := by
    have absent := holds.noFile directory member
    unfold isFile at absent ⊢
    rw [read_erase]
    split
    · rfl
    · exact absent
  directories := holds.directories
  noDirectory := holds.noDirectory
  wayFits := holds.wayFits
  fits := holds.fits

theorem holds_of_write (written : tree.write path content = (.ok (), after)) :
    after.Holds path content := by
  have read := read_write written
  obtain ⟨opened, made, noDirectory, fits, rfl⟩ := write_eq_ok_iff.1 written
  obtain ⟨clear, way, rfl⟩ := make_directory_eq_ok_iff.1 made
  refine ⟨(read path).trans (if_pos rfl), ?_, fun _ member => is_directory_opened member _,
    noDirectory, way, fits⟩
  intro directory member
  have absent := clear directory member
  unfold isFile at absent ⊢
  rw [read, if_neg]
  · exact absent
  · rintro rfl
    exact Bool.eq_false_iff.1 noDirectory (is_directory_opened member _)

end MediaTree

/-! ## Rows that fit in again -/

section Fitting

variable {database : Database}

theorem Company.FitsIn.written {row : Company} (fits : row.FitsIn database) :
    row.FitsIn { database with companies := database.companies.replace row } :=
  Table.is_free_for_replace fits rfl rfl

theorem ManufacturerPart.FitsIn.written {row : ManufacturerPart} (fits : row.FitsIn database) :
    row.FitsIn { database with manufacturerParts := database.manufacturerParts.replace row } :=
  ⟨fits.part, fits.manufacturer, Table.is_free_for_replace fits.free rfl rfl⟩

theorem Parameter.FitsIn.written {row : Parameter} (fits : row.FitsIn database) :
    row.FitsIn { database with parameters := database.parameters.replace row } :=
  ⟨fits.stands, Table.is_free_for_replace fits.free rfl rfl⟩

theorem SupplierPart.FitsIn.written {row : SupplierPart} (fits : row.FitsIn database) :
    row.FitsIn { database with supplierParts := database.supplierParts.replace row } :=
  ⟨fits.part, fits.supplier, fits.link, Table.is_free_for_replace fits.free rfl rfl, fits.short⟩

theorem PriceBreak.FitsIn.written {row : PriceBreak} (fits : row.FitsIn database) :
    row.FitsIn { database with priceBreaks := database.priceBreaks.replace row } :=
  ⟨fits.stands, Table.is_free_for_replace fits.free rfl rfl, fits.short⟩

end Fitting

/-! ## Updates to what is there already -/

section Again

variable {store : Store} {pk : Int}

theorem check_of_none {violations : List Violation} (none : violations = []) :
    ServiceError.check violations = .ok () := by
  subst none
  rfl

/-- A draft takes effect when its file can be kept. -/
theorem Store.write_of_kept {α : Type} {drafted : Except ServiceError (Draft α)} {draft : Draft α}
    {changes : List Change} {file : Option (String × Bytes)} {media : MediaTree}
    (made : drafted = .ok draft) (carries : draft.CarriesOut store.database changes file)
    (kept : store.media.keep file = (.ok (), media)) :
    ∃ answer, draft.answer = .ok answer ∧
      store.write drafted = (.ok answer, ⟨Change.applyAll store.database changes, media⟩) := by
  subst made
  obtain ⟨_, result, rfl, answer, answered⟩ := carries
  refine ⟨answer, answered, ?_⟩
  unfold write commit
  cases given : draft.file with
  | none =>
      rw [given] at kept
      cases kept
      simp only [given, answered, result]
  | some file =>
      obtain ⟨path, content⟩ := file
      rw [given] at kept
      simp only [given, staged_write_eq, kept, answered, result]

namespace Operation

/-- A row that is drafted anew, without a file, is written. -/
theorem unread_write {α ρ : Type} [Keyed ρ] {drafted : Except ServiceError (Draft α)}
    {table : Table ρ} {changes : ρ → List Change}
    (yields : Yields drafted fun draft => ∃ row, table.find? pk = some row ∧
      draft.CarriesOut store.database (changes row) none)
    (made : ∃ draft, drafted = .ok draft) {row : ρ} (found : table.find? pk = some row) :
    unread (store.write drafted) =
      (.ok (), { store with database := Change.applyAll store.database (changes row) }) := by
  obtain ⟨draft, made⟩ := made
  obtain ⟨other, there, carries⟩ := yields.value made
  obtain rfl : row = other := Option.some.inj (found.symm.trans there)
  have kept : store.media.keep none = (.ok (), store.media) := rfl
  obtain ⟨answer, _, written⟩ := Store.write_of_kept made carries kept
  rw [written]
  rfl

theorem company_again {company : Company} {changes : CompanyChanges} {image : Option CompanyImage}
    (found : store.database.companies.find? pk = some company)
    (fits : company.FitsIn store.database) (same : company.changed changes image = company)
    (kept : store.media.keep (image.map (CompanyImage.file pk)) = (.ok (), store.media)) :
    (updateCompany pk changes image).run store = (.ok (), store) := by
  obtain rfl : company.pk = pk := Table.pk_of_find found
  have fitsChanged : (changes.applyTo company).FitsIn store.database := by
    rw [← same] at fits
    exact fits
  have named : store.database.checkName (changes.applyTo company) = .ok () := by
    have free : store.database.isNameTaken (changes.applyTo company) = false :=
      (Table.is_free_for_iff fun other => by simp).2 fitsChanged
    rw [Database.checkName, free]
    rfl
  have drafted : ∃ draft, store.database.draftChangedCompany company changes image = .ok draft := by
    unfold Database.draftChangedCompany
    rw [bind_of_ok named, bind_of_ok (Clauses.replace_eq_ok _ fitsChanged.taken)]
    exact ⟨_, rfl⟩
  obtain ⟨draft, drafted⟩ := drafted
  obtain ⟨carries, reads⟩ := (Database.yields_changed_company found changes image).value drafted
  obtain ⟨answer, answered, written⟩ := Store.write_of_kept drafted carries kept
  have saved : answer.company = company := by
    rw [reads, carries.result] at answered
    exact (Database.company_of_get (Write.find_result carries.allowed.1.1) answered).trans same
  have stays : Change.applyAll store.database
      [.writeCompany (.set (company.changed changes image))] = store.database := by
    change { store.database with
      companies := store.database.companies.replace (company.changed changes image) } = _
    rw [same, Table.replace_self found]
  simp only [run, Store.updateCompany, Store.beginCompanyUpdate, Table.wanted_of_find _ found,
    written, Except.map, Store.settleCompanyUpdate, saved, if_true, stays]
  rfl

theorem manufacturer_part_again {row : ManufacturerPart} {changes : ManufacturerPartChanges}
    (found : store.database.manufacturerParts.find? pk = some row)
    (fits : row.FitsIn store.database) (same : changes.applyTo row = row) :
    (updateManufacturerPart pk changes).run store = (.ok (), store) := by
  have checked := check_of_none
    ((store.database.manufacturer_part_violations_eq_nil_iff row).2 fits)
  have drafted : ∃ draft, store.database.draftChangedManufacturerPart pk changes = .ok draft := by
    unfold Database.draftChangedManufacturerPart
    rw [bind_of_ok (Table.wanted_of_find _ found), same, bind_of_ok checked,
      bind_of_ok (Clauses.replace_eq_ok _ fits.taken)]
    exact ⟨_, rfl⟩
  refine (unread_write (Database.yields_changed_manufacturer_part pk changes) drafted
    found).trans ?_
  change (_, (⟨{ store.database with manufacturerParts := _ }, _⟩ : Store)) = _
  rw [same, Write.apply, Table.replace_self found]

theorem parameter_again (sound : store.database.IsSound) {row : Parameter}
    {changes : ParameterChanges} (found : store.database.parameters.find? pk = some row)
    (fits : row.FitsIn store.database) (same : changes.applyTo row = row) :
    (updateParameter pk changes).run store = (.ok (), store) := by
  have checked := check_of_none ((store.database.parameter_violations_eq_nil_iff row).2 fits)
  have drafted : ∃ draft, store.database.draftChangedParameter pk changes = .ok draft := by
    unfold Database.draftChangedParameter
    rw [bind_of_ok (Table.wanted_of_find _ found), same, bind_of_ok checked,
      bind_of_ok (Clauses.replace_eq_ok _ fits.taken)]
    exact ⟨_, rfl⟩
  refine (unread_write (Database.yields_changed_parameter sound pk changes) drafted
    found).trans ?_
  change (_, (⟨{ store.database with parameters := _ }, _⟩ : Store)) = _
  rw [same, Write.apply, Table.replace_self found]

theorem price_break_again (sound : store.database.IsSound) {row : PriceBreak}
    {changes : PriceBreakChanges} {now : Instant}
    (found : store.database.priceBreaks.find? pk = some row)
    (fits : row.FitsIn store.database) (same : row.changed changes now = row.dated now) :
    (updatePriceBreak pk changes now).run store =
      (.ok (), { store with
        database := (Update.priceBreak pk changes).dated store.database now }) := by
  let given : PriceBreak := { changes.applyTo row with updated := some now }
  have fitsGiven : given.kept.FitsIn store.database := by
    rw [show given.kept = row.dated now from same]
    exact ⟨fits.stands, fits.free, congrArg (fun row => PriceBreak.dated row now) fits.short⟩
  have checked := check_of_none
    ((store.database.price_break_violations_eq_nil_iff given).2 fitsGiven)
  have replaced := Clauses.replace_eq_ok "update price break" (fitsGiven.taken sound.decimals)
  have drafted : ∃ draft, store.database.draftChangedPriceBreak pk changes now = .ok draft := by
    unfold Database.draftChangedPriceBreak
    rw [bind_of_ok (Table.wanted_of_find _ found), bind_of_ok checked, bind_of_ok replaced]
    exact ⟨_, rfl⟩
  refine (unread_write (Database.yields_changed_price_break sound pk changes now) drafted
    found).trans ?_
  change (_, (⟨{ store.database with priceBreaks := _ }, _⟩ : Store)) = _
  rw [same, Write.apply, Table.replace_of_find found (·.dated now) fun _ => rfl]
  rfl

/-- What a supplier part designates and is linked to decides whether it fits in. -/
theorem supplier_part_fits_like {database : Database} {row other : SupplierPart}
    (fits : row.FitsIn database) (samePk : other.pk = row.pk)
    (same : other.designation = row.designation)
    (link : other.manufacturerPart = row.manufacturerPart) (short : other.kept = other) :
    other.FitsIn database := by
  have part : other.part = row.part := congrArg Prod.fst same
  have supplier : other.supplier = row.supplier := congrArg (fun key => key.2.1) same
  refine ⟨part ▸ fits.part, supplier ▸ fits.supplier, ?_, ?_, short⟩
  · rw [link, part]
    exact fits.link
  · intro third member different
    rw [same]
    rw [show Keyed.pk other = Keyed.pk row from samePk] at different
    exact fits.free third member different

/-- A quantity is taken over unless it is negative. -/
theorem report_available_ok_iff (database : Database) (row : SupplierPart)
    (quantity : Option Decimal) (now : Instant) :
    (∃ made, database.reportAvailable row quantity now = .ok made) ↔
      ∀ value ∈ quantity, Check.minValue Decimal.zero value = .ok () := by
  cases quantity with
  | none => simp [Database.reportAvailable]
  | some quantity =>
      cases checked : Check.minValue Decimal.zero quantity with
      | ok passed => simp [Database.reportAvailable, SupplierPart.reportAvailable, checked]
      | error cause => simp [Database.reportAvailable, SupplierPart.reportAvailable, checked]

theorem supplier_part_again (sound : store.database.IsSound) {row : SupplierPart}
    {input : SupplierPartInput} {now : Instant}
    (found : store.database.supplierParts.find? pk = some row)
    (fits : row.FitsIn store.database) (same : row.changed input now = row.dated input now)
    (reportable : ∀ quantity ∈ input.available, Check.minValue Decimal.zero quantity = .ok ()) :
    (updateSupplierPart pk input now).run store =
      (.ok (), { store with
        database := (Update.supplierPart pk input).dated store.database now }) := by
  let given : SupplierPart := { input.changes.applyTo row with updated := some now }
  have fitsGiven : given.kept.FitsIn store.database := by
    refine supplier_part_fits_like fits rfl ?_ ?_ (SupplierPart.kept_kept _)
    · have designation := SupplierPart.designation_reported given input.available now
      have alike := congrArg SupplierPart.designation same
      exact designation.symm.trans alike
    · have link := SupplierPart.link_reported given input.available now
      have alike := congrArg SupplierPart.manufacturerPart same
      exact link.symm.trans alike
  have checked := check_of_none
    ((store.database.supplier_part_violations_eq_nil_iff given).2 fitsGiven)
  have replaced := Clauses.replace_eq_ok "update supplier part" fitsGiven.taken
  have drafted : ∃ draft, store.database.draftChangedSupplierPart pk input now = .ok draft := by
    unfold Database.draftChangedSupplierPart
    rw [bind_of_ok (Table.wanted_of_find _ found), bind_of_ok checked]
    unfold Database.replaceSupplierPart
    rw [bind_of_ok replaced]
    obtain ⟨made, reported⟩ := (report_available_ok_iff _ given _ now).2 reportable
    exact ⟨_, bind_of_ok reported⟩
  refine (unread_write (Database.yields_changed_supplier_part sound pk input now) drafted
    found).trans ?_
  change (_, (⟨{ store.database with supplierParts := _ }, _⟩ : Store)) = _
  rw [same, Write.apply, Table.replace_of_find found (·.dated input now) fun _ => rfl]
  rfl

/-- A quantity that has been taken over once is not negative. -/
theorem reportable_of_success {input : SupplierPartInput} {now : Instant}
    (succeeds : (updateSupplierPart pk input now).Succeeds store) :
    ∀ quantity ∈ input.available, Check.minValue Decimal.zero quantity = .ok () := by
  obtain ⟨answer, written⟩ := answered_of_unread succeeds
  obtain ⟨draft, drafted, _⟩ := Store.drafted_of_written written
  obtain ⟨row, _, checked⟩ := ok_of_bind drafted
  obtain ⟨_, _, replaced⟩ := ok_of_bind checked
  obtain ⟨_, _, reported⟩ := ok_of_bind replaced
  obtain ⟨made, taken, _⟩ := ok_of_bind reported
  exact (report_available_ok_iff _ _ _ _).1 ⟨made, taken⟩

end Operation

end Again

/-! ## Any update -/

/-- The image that came with an update is kept where the company now says, and the one before it
has not taken it along. -/
theorem Operation.image_is_kept {store : Store} (sound : store.database.IsSound)
    (places : store.database.HasImagePlaces) {pk : Int} {changes : CompanyChanges}
    {image : Option CompanyImage} (succeeds : (updateCompany pk changes image).Succeeds store) :
    let first := ((updateCompany pk changes image).run store).2
    first.media.keep (image.map (CompanyImage.file pk)) = (.ok (), first.media) := by
  intro first
  cases image with
  | none => rfl
  | some picture =>
      obtain ⟨_, media, makes, _, kept, result⟩ := Store.outcome_of_success sound succeeds
      have holds : media.Holds _ _ := MediaTree.holds_of_write kept
      cases makes with
      | @updateCompany _ company found _ _ =>
          apply MediaTree.Holds.write
          rw [show first = _ from result]
          cases gone : (updateCompany pk changes (some picture)).abandoned store with
          | none => exact holds
          | some path =>
              apply holds.erase
              rw [abandoned, found, Option.bind_some] at gone
              split at gone
              · cases gone
              rename_i replaced
              obtain ⟨format, rfl⟩ := places company (Table.mem_of_find found) path gone
              intro same
              obtain ⟨key, format⟩ := CompanyImage.place_injective same
              rw [gone, ← format] at replaced
              exact replaced rfl

/-- An update of a sound database can be made again at any time, and then shows that time where the
first one showed its own. -/
theorem Update.made_again {store : Store} (sound : store.database.IsSound)
    (places : store.database.HasImagePlaces) {update : Update} {now : Instant}
    (succeeds : (update.made now).Succeeds store) (later : Instant) :
    let first := ((update.made now).run store).2
    (update.made later).run first =
      (.ok (), { first with database := update.dated first.database later }) := by
  intro first
  have soundFirst : first.database.IsSound := Store.run_is_sound sound _
  obtain ⟨changes, makes, allowed, database⟩ := Store.changes_of_success sound succeeds
  change first.database = _ at database
  cases update with
  | company pk changes image =>
      have kept := Operation.image_is_kept sound places succeeds
      cases makes with
      | @updateCompany _ company found _ _ =>
          have same : Keyed.pk (company.changed changes image) = Keyed.pk company := rfl
          have written := Table.find_replace_of_find found same
          refine Operation.company_again ?_ ?_ (company.changed_again changes image) kept
          · rw [database]
            exact written
          · rw [database]
            exact allowed.1.2.written
  | manufacturerPart pk changes =>
      cases makes with
      | @updateManufacturerPart _ row found _ =>
          have same : Keyed.pk (changes.applyTo row) = Keyed.pk row := rfl
          have written := Table.find_replace_of_find found same
          refine Operation.manufacturer_part_again ?_ ?_ (row.changed_again changes)
          · rw [database]
            exact written
          · rw [database]
            exact allowed.1.2.written
  | parameter pk changes =>
      cases makes with
      | @updateParameter _ row found _ =>
          have same : Keyed.pk (changes.applyTo row) = Keyed.pk row := rfl
          have written := Table.find_replace_of_find found same
          refine Operation.parameter_again soundFirst ?_ ?_ (row.changed_again changes)
          · rw [database]
            exact written
          · rw [database]
            exact allowed.1.2.written
  | supplierPart pk input =>
      have reportable := Operation.reportable_of_success succeeds
      cases makes with
      | @updateSupplierPart _ row found _ _ =>
          have written := Table.find_replace_of_find found (row.pk_changed input now)
          refine Operation.supplier_part_again soundFirst ?_ ?_
            (row.changed_again input now later) reportable
          · rw [database]
            exact written
          · rw [database]
            exact allowed.1.2.written
  | priceBreak pk changes =>
      cases makes with
      | @updatePriceBreak _ row found _ _ =>
          have same : Keyed.pk (row.changed changes now) = Keyed.pk row := rfl
          have written := Table.find_replace_of_find found same
          refine Operation.price_break_again soundFirst ?_ ?_ (row.changed_again changes now later)
          · rw [database]
            exact written
          · rw [database]
            exact allowed.1.2.written

/-- Whatever has been done before, an update that succeeds does so again at once, whether it brings
an image or drops one, and leaves rows, keys last given out and files as they are. Only the time of
the update is new, and the time of the report if a quantity is reported. -/
theorem Store.repeated_update_changes_times (operations : List Operation) (update : Update)
    (now later : Instant) (succeeds : (update.made now).Succeeds (empty.after operations)) :
    let first := ((update.made now).run (empty.after operations)).2
    (update.made later).run first =
      (.ok (), { first with database := update.dated first.database later }) :=
  update.made_again (reachable_is_sound operations) (has_image_places_after operations) succeeds
    later

namespace SmallCatalogue

def animated : Update := .company 1 noChanges (some animation)

theorem animated_succeeds :
    (animated.made ⟨0, 0⟩).Succeeds (Store.empty.after picturedRun) := by rfl

end SmallCatalogue

open SmallCatalogue in
/-- An image that has just come is not taken for the one that it replaces. -/
theorem animated_again :
    let first := ((animated.made ⟨0, 0⟩).run (Store.empty.after picturedRun)).2
    (animated.made ⟨0, 0⟩).Succeeds (Store.empty.after picturedRun) ∧
      (animated.made ⟨1, 0⟩).run first = (.ok (), first) ∧
      first.media.isFile ["company_images", "company_1_image.gif"] = true := by
  intro first
  have again := Store.repeated_update_changes_times picturedRun animated ⟨0, 0⟩ ⟨1, 0⟩
    animated_succeeds
  exact ⟨animated_succeeds, again, by decide +kernel⟩

end SupplyCatalog
