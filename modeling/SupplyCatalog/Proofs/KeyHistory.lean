import SupplyCatalog.Proofs.ReadBack

/-!
# Keys in the course of a run

A key is given out once, whatever becomes of its row. The rows of a kind that are there after a
change had their keys before it or have keys beyond the last one given out by then, and that last
key never falls back. So the keys of a kind are given out in ascending order, and a key whose row is
gone is unknown to all that comes later. Operations that fail give out nothing.
-/

namespace SupplyCatalog

/-- The kinds of rows that clients write, each with keys of its own. -/
inductive RowKind
  | company
  | manufacturerPart
  | parameter
  | supplierPart
  | priceBreak
  | attachment (kind : AttachmentKind)
deriving DecidableEq

/-- The keys of one kind: those in use, and the last one given out. -/
structure Keys where
  inUse : List Int
  last : Nat
  ascending : inUse.Pairwise (· < ·)
  given : ∀ key ∈ inUse, key ≤ last

namespace Keys

/-- A key that is in use later was in use before, or has been given out since. -/
structure LeadsTo (before after : Keys) : Prop where
  last : before.last ≤ after.last
  new : ∀ key ∈ after.inUse, key ∈ before.inUse ∨ (before.last : Int) < key

theorem LeadsTo.refl (keys : Keys) : keys.LeadsTo keys := ⟨le_rfl, fun _ => .inl⟩

theorem LeadsTo.trans {first second third : Keys} (start : first.LeadsTo second)
    (rest : second.LeadsTo third) : first.LeadsTo third := by
  refine ⟨start.last.trans rest.last, ?_⟩
  intro key used
  rcases rest.new key used with known | new
  · exact start.new key known
  · have last := start.last
    exact .inr (by omega)

/-- A key that was given out and is not in use comes into use no more. -/
theorem LeadsTo.stays_unused {before after : Keys} (leads : before.LeadsTo after) {key : Int}
    (given : key ≤ before.last) (unused : key ∉ before.inUse) : key ∉ after.inUse := by
  intro used
  rcases leads.new key used with known | new
  · exact unused known
  · omega

end Keys

namespace Table

variable {α : Type} [Keyed α] (table : Table α)

def keys : Keys where
  inUse := table.rows.map Keyed.pk
  last := table.lastPk
  ascending := List.pairwise_map.2 table.ascending
  given := by
    intro key used
    obtain ⟨row, member, rfl⟩ := List.mem_map.1 used
    exact (table.within row member).2

theorem in_use_iff (key : Int) : key ∈ table.keys.inUse ↔ table.contains key = true := by
  rw [contains_iff]
  exact List.mem_map

theorem in_use_of_wanted {kind : String} {key : Int} {row : α}
    (wanted : table.wanted kind key = .ok row) : key ∈ table.keys.inUse := by
  rw [in_use_iff]
  exact contains_of_find ((table.yields_wanted kind key).value wanted)

/-- What is read with a row of the table shows that the row is there. -/
theorem in_use_of_read {β : Type} {kind : String} {key : Int} {next : α → Except ServiceError β}
    {found : β} (read : (table.wanted kind key >>= next) = .ok found) :
    key ∈ table.keys.inUse := by
  obtain ⟨row, wanted, _⟩ := ok_of_bind read
  exact table.in_use_of_wanted wanted

theorem wanted_of_unused {key : Int} (unused : key ∉ table.keys.inUse) (kind : String) :
    table.wanted kind key = .error (.notFound (kind ++ " not found")) := by
  apply wanted_of_absent
  rw [in_use_iff] at unused
  unfold contains at unused
  simpa using unused

theorem next_key_is_new : table.nextPk ∉ table.keys.inUse := by
  intro used
  have below := table.lt_next_pk_of_contains ((table.in_use_iff _).1 used)
  exact lt_irrefl _ below

theorem leads_to_insert (row : α) : table.keys.LeadsTo (table.insert row).keys := by
  refine ⟨Nat.le_succ _, ?_⟩
  intro key used
  rw [in_use_iff, contains_insert] at used
  rcases used with known | rfl
  · exact .inl ((table.in_use_iff key).2 known)
  · exact .inr (Int.lt_succ _)

/-- A table in which no row has come under another key. -/
theorem leads_to_of_contains {after : Table α} (last : after.lastPk = table.lastPk)
    (left : ∀ key, after.contains key = true → table.contains key = true) :
    table.keys.LeadsTo after.keys := by
  refine ⟨le_of_eq last.symm, ?_⟩
  intro key used
  rw [in_use_iff] at used
  exact .inl ((table.in_use_iff key).2 (left key used))

theorem leads_to_keep (test : α → Bool) : table.keys.LeadsTo (table.keep test).keys := by
  have left (key : Int) (kept : (table.keep test).contains key = true) :
      table.contains key = true := by
    obtain ⟨row, member, rfl⟩ := (contains_iff _ key).1 kept
    exact table.contains_of_mem ((table.mem_keep test row).1 member).1
  exact table.leads_to_of_contains rfl left

theorem leads_to_map_rows (change : α → α)
    (same : ∀ row, Keyed.pk (change row) = Keyed.pk row) :
    table.keys.LeadsTo (table.mapRows change same).keys :=
  table.leads_to_of_contains rfl fun key => (table.contains_map_rows change same key).1

theorem leads_to_apply (write : Write α) : table.keys.LeadsTo (write.apply table).keys := by
  cases write with
  | add row => exact table.leads_to_insert row
  | set row => exact table.leads_to_of_contains rfl fun key => (table.contains_replace row key).1

end Table

/-! ## Changes -/

namespace Database

def keys (database : Database) : RowKind → Keys
  | .company => database.companies.keys
  | .manufacturerPart => database.manufacturerParts.keys
  | .parameter => database.parameters.keys
  | .supplierPart => database.supplierParts.keys
  | .priceBreak => database.priceBreaks.keys
  | .attachment kind => (database.attachments kind).keys

structure LeadsTo (before after : Database) : Prop where
  companies : before.companies.keys.LeadsTo after.companies.keys
  manufacturerParts : before.manufacturerParts.keys.LeadsTo after.manufacturerParts.keys
  parameters : before.parameters.keys.LeadsTo after.parameters.keys
  supplierParts : before.supplierParts.keys.LeadsTo after.supplierParts.keys
  priceBreaks : before.priceBreaks.keys.LeadsTo after.priceBreaks.keys
  attachments : ∀ kind, (before.attachments kind).keys.LeadsTo (after.attachments kind).keys

namespace LeadsTo

variable {before after : Database}

theorem kind (leads : before.LeadsTo after) (kind : RowKind) :
    (before.keys kind).LeadsTo (after.keys kind) := by
  cases kind with
  | company => exact leads.companies
  | manufacturerPart => exact leads.manufacturerParts
  | parameter => exact leads.parameters
  | supplierPart => exact leads.supplierParts
  | priceBreak => exact leads.priceBreaks
  | attachment kind => exact leads.attachments kind

theorem refl (database : Database) : database.LeadsTo database where
  companies := .refl _
  manufacturerParts := .refl _
  parameters := .refl _
  supplierParts := .refl _
  priceBreaks := .refl _
  attachments _ := .refl _

theorem trans {third : Database} (start : before.LeadsTo after) (rest : after.LeadsTo third) :
    before.LeadsTo third where
  companies := start.companies.trans rest.companies
  manufacturerParts := start.manufacturerParts.trans rest.manufacturerParts
  parameters := start.parameters.trans rest.parameters
  supplierParts := start.supplierParts.trans rest.supplierParts
  priceBreaks := start.priceBreaks.trans rest.priceBreaks
  attachments kind := (start.attachments kind).trans (rest.attachments kind)

end LeadsTo

variable (database : Database)

theorem leads_to_set_attachments (kind : AttachmentKind) {table : Table Attachment}
    (leads : (database.attachments kind).keys.LeadsTo table.keys) :
    database.LeadsTo (database.setAttachments kind table) := by
  cases kind with
  | company =>
      refine { LeadsTo.refl database with attachments := ?_ }
      intro other
      cases other with
      | company => exact leads
      | manufacturerPart => exact .refl _
  | manufacturerPart =>
      refine { LeadsTo.refl database with attachments := ?_ }
      intro other
      cases other with
      | company => exact .refl _
      | manufacturerPart => exact leads

theorem leads_to_without_manufacturer_parts (isGone : ManufacturerPart → Bool) :
    database.LeadsTo (database.removeManufacturerParts isGone) := by
  refine { LeadsTo.refl database with
    manufacturerParts := database.manufacturerParts.leads_to_keep _
    parameters := database.parameters.leads_to_keep _
    supplierParts := database.supplierParts.leads_to_map_rows _ (·.pk_unlink _)
    attachments := ?_ }
  intro kind
  cases kind with
  | company => exact .refl _
  | manufacturerPart => exact database.manufacturerPartAttachments.leads_to_keep _

theorem leads_to_without_supplier_parts (isGone : SupplierPart → Bool) :
    database.LeadsTo (database.removeSupplierParts isGone) :=
  { LeadsTo.refl database with
    supplierParts := database.supplierParts.leads_to_keep _
    priceBreaks := database.priceBreaks.leads_to_keep _ }

theorem leads_to_without_company (pk : Int) : database.LeadsTo (database.removeCompany pk) := by
  have made := database.leads_to_without_manufacturer_parts (·.manufacturer == pk)
  have supplied := LeadsTo.trans made (leads_to_without_supplier_parts _ (·.supplier == pk))
  refine { supplied with
    companies := database.companies.leads_to_keep _
    attachments := ?_ }
  intro kind
  cases kind with
  | company => exact database.companyAttachments.leads_to_keep _
  | manufacturerPart => exact supplied.attachments .manufacturerPart

theorem leads_to_change (change : Change) : database.LeadsTo (change.apply database) := by
  cases change with
  | addPart row => exact { LeadsTo.refl database with }
  | addStockItem item => exact { LeadsTo.refl database with }
  | writeCompany write =>
      exact { LeadsTo.refl database with companies := database.companies.leads_to_apply write }
  | writeManufacturerPart write =>
      exact { LeadsTo.refl database with
        manufacturerParts := database.manufacturerParts.leads_to_apply write }
  | writeParameter write =>
      exact { LeadsTo.refl database with parameters := database.parameters.leads_to_apply write }
  | writeSupplierPart write =>
      exact { LeadsTo.refl database with
        supplierParts := database.supplierParts.leads_to_apply write }
  | writePriceBreak write =>
      exact { LeadsTo.refl database with
        priceBreaks := database.priceBreaks.leads_to_apply write }
  | addAttachment row => exact database.leads_to_set_attachments _ (Table.leads_to_insert _ row)
  | removeCompany pk => exact database.leads_to_without_company pk
  | removeManufacturerPart pk => exact database.leads_to_without_manufacturer_parts _
  | removeParameter pk =>
      exact { LeadsTo.refl database with parameters := database.parameters.leads_to_keep _ }
  | removeSupplierPart pk => exact database.leads_to_without_supplier_parts _
  | removePriceBreak pk =>
      exact { LeadsTo.refl database with priceBreaks := database.priceBreaks.leads_to_keep _ }
  | removeAttachment kind pk =>
      exact database.leads_to_set_attachments kind (Table.leads_to_keep _ _)

theorem leads_to_changes (changes : List Change) :
    database.LeadsTo (Change.applyAll database changes) := by
  induction changes generalizing database with
  | nil => exact .refl database
  | cons change rest induction => exact (database.leads_to_change change).trans (induction _)

end Database

/-! ## Operations and runs -/

namespace Store

variable {store : Store}

theorem run_leads_to (sound : store.database.IsSound) (operation : Operation) :
    store.database.LeadsTo (operation.run store).2.database := by
  by_cases succeeds : operation.Succeeds store
  · obtain ⟨changes, _, _, result⟩ := changes_of_success sound succeeds
    rw [result]
    exact store.database.leads_to_changes changes
  · rw [database_of_failure sound succeeds]
    exact .refl _

theorem after_leads_to (sound : store.database.IsSound) (operations : List Operation) :
    store.database.LeadsTo (store.after operations).database := by
  induction operations generalizing store with
  | nil => exact .refl _
  | cons operation rest induction =>
      exact (run_leads_to sound operation).trans (induction (run_is_sound sound operation))

/-- The keys that an operation gives to new rows of a kind. -/
def keysGiven (store : Store) (kind : RowKind) (operation : Operation) : List Int :=
  ((operation.run store).2.database.keys kind).inUse.filter
    (· ∉ (store.database.keys kind).inUse)

/-- The keys that a run gives to new rows of a kind, in the order in which they are given. -/
def keysGivenIn (store : Store) (kind : RowKind) : List Operation → List Int
  | [] => []
  | operation :: rest =>
      store.keysGiven kind operation ++ (operation.run store).2.keysGivenIn kind rest

theorem key_given_is_new (sound : store.database.IsSound) {kind : RowKind} {operation : Operation}
    {key : Int} (given : key ∈ store.keysGiven kind operation) :
    (store.database.keys kind).last < key ∧
      key ≤ ((operation.run store).2.database.keys kind).last := by
  obtain ⟨used, unused⟩ := List.mem_filter.1 given
  refine ⟨?_, Keys.given _ key used⟩
  rcases ((run_leads_to sound operation).kind kind).new key used with known | new
  · simp [known] at unused
  · exact new

theorem key_given_later (sound : store.database.IsSound) {kind : RowKind}
    {operations : List Operation} {key : Int} (given : key ∈ store.keysGivenIn kind operations) :
    (store.database.keys kind).last < key := by
  induction operations generalizing store with
  | nil => cases given
  | cons operation rest induction =>
      rcases List.mem_append.1 given with now | later
      · exact (key_given_is_new sound now).1
      · have above := induction (run_is_sound sound operation) later
        have last := ((run_leads_to sound operation).kind kind).last
        omega

theorem keys_given_ascend (sound : store.database.IsSound) (kind : RowKind)
    (operations : List Operation) : (store.keysGivenIn kind operations).Pairwise (· < ·) := by
  induction operations generalizing store with
  | nil => exact .nil
  | cons operation rest induction =>
      have sorted := ((operation.run store).2.database.keys kind).ascending
      refine List.pairwise_append.2
        ⟨sorted.sublist List.filter_sublist, induction (run_is_sound sound operation), ?_⟩
      intro first now second later
      -- The last key given out lies between what is given now and what is given later.
      have bound := (key_given_is_new sound now).2
      have above := key_given_later (run_is_sound sound operation) later
      omega

/-! ## Answers -/

/-- Every operation on a row of this kind under this key is answered that there is none, and does
nothing. Attachments are not updated by anyone. -/
def MissesRow (store : Store) : RowKind → Int → Prop
  | .company, pk =>
      let missing := ServiceError.notFound "company not found"
      store.database.getCompany pk = .error missing ∧
        (∀ changes image, store.updateCompany pk changes image = (.error missing, store)) ∧
        store.deleteCompany pk = (.error missing, store)
  | .manufacturerPart, pk =>
      let missing := ServiceError.notFound "manufacturer part not found"
      store.database.getManufacturerPart pk = .error missing ∧
        (∀ changes, store.updateManufacturerPart pk changes = (.error missing, store)) ∧
        store.deleteManufacturerPart pk = (.error missing, store)
  | .parameter, pk =>
      let missing := ServiceError.notFound "parameter not found"
      store.database.getParameter pk = .error missing ∧
        (∀ changes, store.updateParameter pk changes = (.error missing, store)) ∧
        store.deleteParameter pk = (.error missing, store)
  | .supplierPart, pk =>
      let missing := ServiceError.notFound "supplier part not found"
      store.database.getSupplierPart pk = .error missing ∧
        (∀ input now, store.updateSupplierPart pk input now = (.error missing, store)) ∧
        store.deleteSupplierPart pk = (.error missing, store)
  | .priceBreak, pk =>
      let missing := ServiceError.notFound "price break not found"
      store.database.getPriceBreak pk = .error missing ∧
        (∀ changes now, store.updatePriceBreak pk changes now = (.error missing, store)) ∧
        store.deletePriceBreak pk = (.error missing, store)
  | .attachment kind, pk =>
      let missing := ServiceError.notFound "attachment not found"
      store.database.getAttachment kind pk = .error missing ∧
        store.deleteAttachment kind pk = (.error missing, store)

theorem misses_unused_row {kind : RowKind} {pk : Int}
    (unused : pk ∉ (store.database.keys kind).inUse) : store.MissesRow kind pk := by
  cases kind with
  | company =>
      have missing := Table.wanted_of_unused _ unused "company"
      refine ⟨by rw [Database.getCompany, missing]; rfl, ?_, by rw [deleteCompany, missing]; rfl⟩
      intro changes image
      rw [updateCompany, beginCompanyUpdate, missing]
      rfl
  | manufacturerPart =>
      have missing := Table.wanted_of_unused _ unused "manufacturer part"
      refine ⟨by rw [Database.getManufacturerPart, missing]; rfl, ?_, ?_⟩
      · intro changes
        rw [updateManufacturerPart, Database.draftChangedManufacturerPart, missing]
        rfl
      · rw [deleteManufacturerPart, Database.draftWithoutManufacturerPart, missing]
        rfl
  | parameter =>
      have missing := Table.wanted_of_unused _ unused "parameter"
      refine ⟨by rw [Database.getParameter, missing]; rfl, ?_, ?_⟩
      · intro changes
        rw [updateParameter, Database.draftChangedParameter, missing]
        rfl
      · rw [deleteParameter, Database.draftWithoutParameter, missing]
        rfl
  | supplierPart =>
      have missing := Table.wanted_of_unused _ unused "supplier part"
      refine ⟨by rw [Database.getSupplierPart, missing]; rfl, ?_, ?_⟩
      · intro input now
        rw [updateSupplierPart, Database.draftChangedSupplierPart, missing]
        rfl
      · rw [deleteSupplierPart, Database.draftWithoutSupplierPart, missing]
        rfl
  | priceBreak =>
      have missing := Table.wanted_of_unused _ unused "price break"
      refine ⟨by rw [Database.getPriceBreak, missing]; rfl, ?_, ?_⟩
      · intro changes now
        rw [updatePriceBreak, Database.draftChangedPriceBreak, missing]
        rfl
      · rw [deletePriceBreak, Database.draftWithoutPriceBreak, missing]
        rfl
  | attachment kind =>
      have missing := Table.wanted_of_unused _ unused "attachment"
      exact ⟨missing, by rw [deleteAttachment, missing]; rfl⟩

/-- A row that is made is answered under a key that the operation gives it. -/
def AnswersKeyGiven {α : Type} (store : Store) (kind : RowKind) (operation : Operation)
    (outcome : Except ServiceError α × Store) (pk : α → Int) : Prop :=
  ∀ answer after, outcome = (.ok answer, after) → pk answer ∈ store.keysGiven kind operation

structure AnswersKeysGiven (store : Store) : Prop where
  company : ∀ changes image,
    store.AnswersKeyGiven .company (.createCompany changes image)
      (store.createCompany changes image) (·.company.pk)
  manufacturerPart : ∀ changes,
    store.AnswersKeyGiven .manufacturerPart (.createManufacturerPart changes)
      (store.createManufacturerPart changes) (·.manufacturerPart.pk)
  parameter : ∀ changes,
    store.AnswersKeyGiven .parameter (.createParameter changes)
      (store.createParameter changes) (·.parameter.pk)
  supplierPart : ∀ input now,
    store.AnswersKeyGiven .supplierPart (.createSupplierPart input now)
      (store.createSupplierPart input now) (·.supplierPart.pk)
  priceBreak : ∀ changes currencies now,
    store.AnswersKeyGiven .priceBreak (.createPriceBreak changes currencies now)
      (store.createPriceBreak changes currencies now) (·.priceBreak.pk)
  attachment : ∀ kind input today,
    store.AnswersKeyGiven (.attachment kind) (.createAttachment kind input today)
      (store.createAttachment kind input today) (·.pk)

/-- A new row is answered as it is read afterwards, so it is there under the key. -/
theorem answers_key_given {α : Type} {kind : RowKind} {operation : Operation}
    {outcome : Except ServiceError α × Store} {key : Int} {pk : α → Int}
    {get : Database → Int → Except ServiceError α} {same : α → α → Prop}
    (runs : operation.run store = Operation.unread outcome)
    (answers : AnswersAsRead outcome key pk get same)
    (unused : key ∉ (store.database.keys kind).inUse)
    (used : ∀ database found, get database key = .ok found →
      key ∈ (Database.keys database kind).inUse) :
    store.AnswersKeyGiven kind operation outcome pk := by
  intro answer after written
  obtain ⟨same, found, read, _⟩ := answers answer after written
  subst written
  unfold keysGiven
  rw [List.mem_filter, runs, same]
  exact ⟨used after.database found read, by simpa using unused⟩

theorem answers_keys_given (store : Store) : store.AnswersKeysGiven where
  company changes image := by
    apply answers_key_given rfl (store.reads_its_writes.newCompany changes image)
      (Table.next_key_is_new _)
    intro database found read
    exact Table.in_use_of_read _ read
  manufacturerPart changes := by
    apply answers_key_given rfl (store.reads_its_writes.newManufacturerPart changes)
      (Table.next_key_is_new _)
    intro database found read
    exact Table.in_use_of_read _ read
  parameter changes := by
    apply answers_key_given rfl (store.reads_its_writes.newParameter changes)
      (Table.next_key_is_new _)
    intro database found read
    exact Table.in_use_of_read _ read
  supplierPart input now := by
    apply answers_key_given rfl (store.reads_its_writes.newSupplierPart input now)
      (Table.next_key_is_new _)
    intro database found read
    exact Table.in_use_of_read _ read
  priceBreak changes currencies now := by
    apply answers_key_given rfl (store.reads_its_writes.newPriceBreak changes currencies now)
      (Table.next_key_is_new _)
    intro database found read
    exact Table.in_use_of_read _ read
  attachment kind input today := by
    apply answers_key_given rfl (store.reads_its_writes.newAttachment kind input today)
      (Table.next_key_is_new _)
    intro database found read
    exact Table.in_use_of_wanted _ read

/-- At some moment of the run a row of the kind was there under the key. -/
def WasInUse (operations : List Operation) (kind : RowKind) (key : Int) : Prop :=
  ∃ before, before <+: operations ∧ key ∈ ((empty.after before).database.keys kind).inUse

theorem given_of_was_in_use {operations : List Operation} {kind : RowKind} {key : Int}
    (used : WasInUse operations kind key) :
    key ≤ ((empty.after operations).database.keys kind).last := by
  obtain ⟨before, ⟨rest, rfl⟩, inUse⟩ := used
  have bound := Keys.given _ key inUse
  have last := ((after_leads_to (reachable_is_sound before) rest).kind kind).last
  rw [after_append]
  omega

/-- A row that is gone stays gone: whatever comes later in the run, its key is answered as unknown.
For the keys of a kind are given out in ascending order, so that none is given out again, and it is
those keys that new rows are answered with. -/
theorem deleted_stays_deleted (operations more : List Operation) :
    (∀ kind key, WasInUse operations kind key →
      key ∉ ((empty.after operations).database.keys kind).inUse →
        (empty.after (operations ++ more)).MissesRow kind key) ∧
      (∀ kind key, WasInUse operations kind key →
        ∀ given ∈ (empty.after operations).keysGivenIn kind more, key < given) ∧
      (∀ kind, (empty.keysGivenIn kind operations).Pairwise (· < ·)) ∧
      (empty.after operations).AnswersKeysGiven := by
  have sound := reachable_is_sound operations
  refine ⟨?_, ?_, fun kind => keys_given_ascend Database.empty_is_sound kind operations,
    answers_keys_given _⟩
  · intro kind key used gone
    apply misses_unused_row
    rw [after_append]
    exact ((after_leads_to sound more).kind kind).stays_unused (given_of_was_in_use used) gone
  · intro kind key used given member
    have bound := given_of_was_in_use used
    have above := key_given_later sound member
    omega

end Store

namespace SmallCatalogue

def deletedRun : List Operation := setUp ++ [.deleteCompany 1]

/-- The company comes back. It cannot be there twice, and another one is made after that. -/
def comeBack : List Operation :=
  [.createCompany company none, .createCompany company none,
    .createCompany { company with name := some "Zenith" } none]

theorem supplier_part_was_in_use : Store.WasInUse deletedRun .supplierPart 1 :=
  ⟨setUp, List.prefix_append _ _, by decide +kernel⟩

theorem supplier_part_is_gone :
    1 ∉ ((Store.empty.after deletedRun).database.keys .supplierPart).inUse := by
  decide +kernel

end SmallCatalogue

open SmallCatalogue in
/-- What a company supplied went with it, and does not come back with the company. -/
theorem supplied_part_stays_deleted :
    Store.WasInUse deletedRun .supplierPart 1 ∧
      (Store.empty.after (deletedRun ++ comeBack)).MissesRow .supplierPart 1 ∧
      Store.empty.keysGivenIn .company (deletedRun ++ comeBack) = [1, 2, 3] := by
  obtain ⟨missing, _, _, _⟩ := Store.deleted_stays_deleted deletedRun comeBack
  exact ⟨supplier_part_was_in_use,
    missing .supplierPart 1 supplier_part_was_in_use supplier_part_is_gone, by decide +kernel⟩

end SupplyCatalog
