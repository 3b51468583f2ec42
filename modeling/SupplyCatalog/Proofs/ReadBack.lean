import SupplyCatalog.Proofs.RowOrigin
import SupplyCatalog.Proofs.StoredText

/-!
# Writes that are read back

A write that succeeds is answered with what is read under its key afterwards, together with all that
the row refers to and what is counted for it. Only a price break is answered as it was given, so
that its decimals may have more places than those that are read, but not another value. What is read
stands in the database as texts, which read back as the values they were written for.
-/

namespace SupplyCatalog

/-! ## Price breaks of one value -/

/-- The same price break, in whatever places its decimals are written. -/
structure PriceBreak.SameAs (a b : PriceBreak) : Prop where
  pk : a.pk = b.pk
  part : a.part = b.part
  quantity : a.quantity.toRat = b.quantity.toRat
  price : a.price.map Decimal.toRat = b.price.map Decimal.toRat
  priceCurrency : a.priceCurrency = b.priceCurrency
  updated : a.updated = b.updated

theorem PriceBreak.same_as_kept (row : PriceBreak) : row.SameAs row.kept where
  pk := rfl
  part := rfl
  quantity := row.quantity.to_rat_normalize.symm
  price := by
    cases price : row.price with
    | none => simp [kept, price]
    | some value => simp [kept, price, value.to_rat_normalize]
  priceCurrency := rfl
  updated := rfl

def PriceBreakBundle.SameAs (a b : PriceBreakBundle) : Prop :=
  a.priceBreak.SameAs b.priceBreak ∧ a.supplierPart = b.supplierPart

/-! ## What reads show -/

namespace Database

variable {database : Database} {pk : Int}

theorem pk_of_company_read {bundle : CompanyBundle} (read : database.getCompany pk = .ok bundle) :
    bundle.company.pk = pk := by
  obtain ⟨company, wanted, rest⟩ := ok_of_bind read
  cases rest
  exact Table.pk_of_find ((Table.yields_wanted _ _ _).value wanted)

theorem row_of_manufacturer_part_bundle {row : ManufacturerPart} {bundle : ManufacturerPartBundle}
    (read : database.manufacturerPartBundle row = .ok bundle) : bundle.manufacturerPart = row := by
  obtain ⟨part, _, rest⟩ := ok_of_bind read
  obtain ⟨manufacturer, _, rest⟩ := ok_of_bind rest
  cases rest
  rfl

theorem row_of_parameter_bundle {row : Parameter} {bundle : ParameterBundle}
    (read : database.parameterBundle row = .ok bundle) : bundle.parameter = row := by
  obtain ⟨linked, _, rest⟩ := ok_of_bind read
  cases rest
  rfl

theorem row_of_supplier_part_bundle {row : SupplierPart} {inStock : Option Float}
    {bundle : SupplierPartBundle} (read : database.supplierPartBundle row inStock = .ok bundle) :
    bundle.supplierPart = row := by
  obtain ⟨part, _, rest⟩ := ok_of_bind read
  obtain ⟨supplier, _, rest⟩ := ok_of_bind rest
  obtain ⟨linked, _, rest⟩ := ok_of_bind rest
  cases rest
  rfl

theorem pk_of_supplier_part_read {bundle : SupplierPartBundle}
    (read : database.getSupplierPart pk = .ok bundle) : bundle.supplierPart.pk = pk := by
  obtain ⟨row, wanted, shown⟩ := ok_of_bind read
  rw [row_of_supplier_part_bundle shown]
  exact Table.pk_of_find ((Table.yields_wanted _ _ _).value wanted)

/-- A price break is shown with its supplier part, which is no matter of its decimals. -/
theorem price_break_bundle_kept {row : PriceBreak} {bundle : PriceBreakBundle}
    (read : database.priceBreakBundle row = .ok bundle) :
    bundle.priceBreak = row ∧
      database.priceBreakBundle row.kept = .ok { bundle with priceBreak := row.kept } := by
  obtain ⟨supplierPart, related, rest⟩ := ok_of_bind read
  obtain ⟨shown, bundled, rest⟩ := ok_of_bind rest
  cases rest
  refine ⟨rfl, ?_⟩
  unfold priceBreakBundle
  rw [show row.kept.part = row.part from rfl, bind_of_ok related, bind_of_ok bundled]
  rfl

end Database

/-! ## Answers and reads -/

/-- A write of the row under a key is answered, if it succeeds, as the key is read afterwards. -/
def AnswersAsRead {α : Type} (outcome : Except ServiceError α × Store) (key : Int) (pk : α → Int)
    (get : Database → Int → Except ServiceError α) (same : α → α → Prop) : Prop :=
  ∀ answer after, outcome = (.ok answer, after) →
    pk answer = key ∧ ∃ found, get after.database key = .ok found ∧ same answer found

namespace Store

variable {store : Store}

section Drafted

variable {α : Type} {drafted : Except ServiceError (Draft α)} {key : Int} {pk : α → Int}
  {get : Database → Int → Except ServiceError α}

/-- What is drafted is what is written. -/
theorem answers_of_draft {same : α → α → Prop}
    (reads : ∀ {draft answer}, drafted = .ok draft → draft.answer = .ok answer →
      pk answer = key ∧ ∃ found, get draft.database key = .ok found ∧ same answer found) :
    AnswersAsRead (store.write drafted) key pk get same := by
  intro answer after written
  obtain ⟨draft, isDraft, answered, result⟩ := drafted_of_written written
  rw [result]
  exact reads isDraft answered

theorem answers_of_exact_draft
    (reads : ∀ {draft answer}, drafted = .ok draft → draft.answer = .ok answer →
      pk answer = key ∧ get draft.database key = .ok answer) :
    AnswersAsRead (store.write drafted) key pk get Eq := by
  apply answers_of_draft
  intro draft answer isDraft answered
  obtain ⟨sameKey, read⟩ := reads isDraft answered
  exact ⟨sameKey, answer, read, rfl⟩

end Drafted

end Store

namespace Database

variable {database : Database}

/-! ## Companies -/

theorem new_company_is_read {changes : CompanyChanges} {image : Option CompanyImage}
    {draft : Draft CompanyBundle} {answer : CompanyBundle}
    (drafted : database.draftNewCompany changes image = .ok draft)
    (answered : draft.answer = .ok answer) :
    answer.company.pk = database.companies.nextPk ∧
      draft.database.getCompany database.companies.nextPk = .ok answer := by
  obtain ⟨_, _, rest⟩ := ok_of_bind drafted
  obtain ⟨made, inserted, rest⟩ := ok_of_bind rest
  obtain rfl := Clauses.eq_of_insert inserted
  have read : draft.database.getCompany database.companies.nextPk = .ok answer := by
    cases image <;> cases rest <;> exact answered
  exact ⟨pk_of_company_read read, read⟩

theorem changed_company_is_read {company : Company} {changes : CompanyChanges}
    {image : Option CompanyImage} {draft : Draft CompanyBundle} {answer : CompanyBundle}
    (drafted : database.draftChangedCompany company changes image = .ok draft)
    (answered : draft.answer = .ok answer) :
    answer.company.pk = company.pk ∧ draft.database.getCompany company.pk = .ok answer := by
  obtain ⟨_, _, rest⟩ := ok_of_bind drafted
  obtain ⟨table, _, rest⟩ := ok_of_bind rest
  have read : draft.database.getCompany company.pk = .ok answer := by
    cases image <;> cases rest <;> exact answered
  exact ⟨pk_of_company_read read, read⟩

/-! ## Manufacturer parts and parameters -/

theorem get_manufacturer_part_of_find {pk : Int} {row : ManufacturerPart}
    (found : database.manufacturerParts.find? pk = some row) :
    database.getManufacturerPart pk = database.manufacturerPartBundle row := by
  unfold getManufacturerPart
  rw [Table.wanted_of_find _ found]
  rfl

theorem new_manufacturer_part_is_read {changes : ManufacturerPartChanges}
    {draft : Draft ManufacturerPartBundle} {answer : ManufacturerPartBundle}
    (drafted : database.draftNewManufacturerPart changes = .ok draft)
    (answered : draft.answer = .ok answer) :
    answer.manufacturerPart.pk = database.manufacturerParts.nextPk ∧
      draft.database.getManufacturerPart database.manufacturerParts.nextPk = .ok answer := by
  obtain ⟨_, added, rest⟩ := ok_of_bind drafted
  obtain ⟨_, _, inserted⟩ := ok_of_bind added
  obtain ⟨_, made, same⟩ := ok_of_bind inserted
  obtain rfl := Clauses.eq_of_insert made
  cases same
  cases rest
  have found := database.manufacturerParts.find_insert_new changes.create
  rw [row_of_manufacturer_part_bundle answered]
  exact ⟨rfl, (get_manufacturer_part_of_find found).trans answered⟩

theorem changed_manufacturer_part_is_read {pk : Int} {changes : ManufacturerPartChanges}
    {draft : Draft ManufacturerPartBundle} {answer : ManufacturerPartBundle}
    (drafted : database.draftChangedManufacturerPart pk changes = .ok draft)
    (answered : draft.answer = .ok answer) :
    answer.manufacturerPart.pk = pk ∧ draft.database.getManufacturerPart pk = .ok answer := by
  obtain ⟨row, wanted, rest⟩ := ok_of_bind drafted
  obtain ⟨_, _, rest⟩ := ok_of_bind rest
  obtain ⟨_, made, rest⟩ := ok_of_bind rest
  obtain rfl := Clauses.eq_of_replace made
  cases rest
  have there := (Table.yields_wanted _ _ _).value wanted
  have found : (database.manufacturerParts.replace (changes.applyTo row)).find? pk =
      some (changes.applyTo row) := Table.find_replace_of_find there rfl
  rw [row_of_manufacturer_part_bundle answered]
  exact ⟨Table.pk_of_find there, (get_manufacturer_part_of_find found).trans answered⟩

theorem get_parameter_of_find {pk : Int} {row : Parameter}
    (found : database.parameters.find? pk = some row) :
    database.getParameter pk = database.parameterBundle row := by
  unfold getParameter
  rw [Table.wanted_of_find _ found]
  rfl

theorem new_parameter_is_read {changes : ParameterChanges} {draft : Draft ParameterBundle}
    {answer : ParameterBundle} (drafted : database.draftNewParameter changes = .ok draft)
    (answered : draft.answer = .ok answer) :
    answer.parameter.pk = database.parameters.nextPk ∧
      draft.database.getParameter database.parameters.nextPk = .ok answer := by
  obtain ⟨_, _, rest⟩ := ok_of_bind drafted
  obtain ⟨_, made, rest⟩ := ok_of_bind rest
  obtain rfl := Clauses.eq_of_insert made
  cases rest
  have found := database.parameters.find_insert_new changes.create
  rw [row_of_parameter_bundle answered]
  exact ⟨rfl, (get_parameter_of_find found).trans answered⟩

theorem changed_parameter_is_read {pk : Int} {changes : ParameterChanges}
    {draft : Draft ParameterBundle} {answer : ParameterBundle}
    (drafted : database.draftChangedParameter pk changes = .ok draft)
    (answered : draft.answer = .ok answer) :
    answer.parameter.pk = pk ∧ draft.database.getParameter pk = .ok answer := by
  obtain ⟨row, wanted, rest⟩ := ok_of_bind drafted
  obtain ⟨_, _, rest⟩ := ok_of_bind rest
  obtain ⟨_, made, rest⟩ := ok_of_bind rest
  obtain rfl := Clauses.eq_of_replace made
  cases rest
  have there := (Table.yields_wanted _ _ _).value wanted
  have found : (database.parameters.replace (changes.applyTo row)).find? pk =
      some (changes.applyTo row) := Table.find_replace_of_find there rfl
  rw [row_of_parameter_bundle answered]
  exact ⟨Table.pk_of_find there, (get_parameter_of_find found).trans answered⟩

/-! ## Supplier parts and price breaks -/

theorem new_supplier_part_is_read {input : SupplierPartInput} {now : Instant}
    {draft : Draft SupplierPartBundle} {answer : SupplierPartBundle}
    (drafted : database.draftNewSupplierPart input now = .ok draft)
    (answered : draft.answer = .ok answer) :
    answer.supplierPart.pk = database.supplierParts.nextPk ∧
      draft.database.getSupplierPart database.supplierParts.nextPk = .ok answer := by
  obtain ⟨_, _, rest⟩ := ok_of_bind drafted
  obtain ⟨_, made, rest⟩ := ok_of_bind rest
  obtain rfl := Clauses.eq_of_insert made
  obtain ⟨⟨saved, between⟩, written, rest⟩ := ok_of_bind rest
  obtain ⟨after, _, rest⟩ := ok_of_bind rest
  cases rest
  have same := ((yields_report_available _ _ _).value written).1
  have key : saved.pk = database.supplierParts.nextPk :=
    (congrArg SupplierPart.pk same).trans (SupplierPart.pk_reported _ _ _)
  rw [← key]
  exact ⟨pk_of_supplier_part_read answered, answered⟩

theorem changed_supplier_part_is_read {pk : Int} {input : SupplierPartInput} {now : Instant}
    {draft : Draft SupplierPartBundle} {answer : SupplierPartBundle}
    (drafted : database.draftChangedSupplierPart pk input now = .ok draft)
    (answered : draft.answer = .ok answer) :
    answer.supplierPart.pk = pk ∧ draft.database.getSupplierPart pk = .ok answer := by
  obtain ⟨_, _, rest⟩ := ok_of_bind drafted
  obtain ⟨_, _, rest⟩ := ok_of_bind rest
  obtain ⟨_, _, rest⟩ := ok_of_bind rest
  obtain ⟨_, _, rest⟩ := ok_of_bind rest
  cases rest
  exact ⟨pk_of_supplier_part_read answered, answered⟩

/-- The price break that is kept differs from the answer by the places of its decimals alone. -/
theorem get_price_break_of_find {pk : Int} {row : PriceBreak} {answer : PriceBreakBundle}
    (found : database.priceBreaks.find? pk = some row.kept)
    (answered : database.priceBreakBundle row = .ok answer) :
    answer.priceBreak.pk = pk ∧
      ∃ bundle, database.getPriceBreak pk = .ok bundle ∧ answer.SameAs bundle := by
  obtain ⟨same, shown⟩ := price_break_bundle_kept answered
  have key : row.kept.pk = pk := Table.pk_of_find found
  refine ⟨(congrArg PriceBreak.pk same).trans key, { answer with priceBreak := row.kept }, ?_, ?_,
    rfl⟩
  · unfold getPriceBreak
    rw [Table.wanted_of_find _ found]
    exact shown
  · rw [same]
    exact row.same_as_kept

theorem new_price_break_is_read {changes : PriceBreakChanges} {currencies : CurrencyTable}
    {now : Instant} {draft : Draft PriceBreakBundle} {answer : PriceBreakBundle}
    (drafted : database.draftNewPriceBreak changes currencies now = .ok draft)
    (answered : draft.answer = .ok answer) :
    answer.priceBreak.pk = database.priceBreaks.nextPk ∧
      ∃ bundle, draft.database.getPriceBreak database.priceBreaks.nextPk = .ok bundle ∧
        answer.SameAs bundle := by
  obtain ⟨_, _, rest⟩ := ok_of_bind drafted
  obtain ⟨_, made, rest⟩ := ok_of_bind rest
  obtain rfl := Clauses.eq_of_insert made
  cases rest
  exact get_price_break_of_find (Table.find_insert_new _ _) answered

theorem changed_price_break_is_read {pk : Int} {changes : PriceBreakChanges} {now : Instant}
    {draft : Draft PriceBreakBundle} {answer : PriceBreakBundle}
    (drafted : database.draftChangedPriceBreak pk changes now = .ok draft)
    (answered : draft.answer = .ok answer) :
    answer.priceBreak.pk = pk ∧
      ∃ bundle, draft.database.getPriceBreak pk = .ok bundle ∧ answer.SameAs bundle := by
  obtain ⟨row, wanted, rest⟩ := ok_of_bind drafted
  obtain ⟨_, _, rest⟩ := ok_of_bind rest
  obtain ⟨_, made, rest⟩ := ok_of_bind rest
  obtain rfl := Clauses.eq_of_replace made
  cases rest
  have there := (Table.yields_wanted _ _ _).value wanted
  exact get_price_break_of_find (Table.find_replace_of_find there rfl) answered

/-! ## Attachments -/

theorem new_attachment_is_read {kind : AttachmentKind} {owner : Int} {input : AttachmentInput}
    {path : String → String} {today : Date} {draft : Draft Attachment} {answer : Attachment}
    (drafted : database.draftNewAttachment (kind.owner owner) input path today = .ok draft)
    (answered : draft.answer = .ok answer) :
    answer.pk = (database.attachments kind).nextPk ∧
      draft.database.getAttachment kind (database.attachments kind).nextPk = .ok answer := by
  have same : (kind.owner owner).kind = kind := by cases kind <;> rfl
  obtain ⟨_, _, rest⟩ := ok_of_bind drafted
  obtain ⟨_, made, rest⟩ := ok_of_bind rest
  obtain rfl := Clauses.eq_of_insert made
  cases rest
  cases answered
  rw [same]
  refine ⟨rfl, ?_⟩
  unfold getAttachment
  rw [attachments_set_attachments, if_pos rfl]
  exact Table.wanted_of_find _ (Table.find_insert_new _ _)

end Database

namespace Store

structure ReadsItsWrites (store : Store) : Prop where
  newCompany : ∀ changes image,
    AnswersAsRead (store.createCompany changes image) store.database.companies.nextPk
      (·.company.pk) Database.getCompany Eq
  changedCompany : ∀ pk changes image,
    AnswersAsRead (store.updateCompany pk changes image) pk (·.company.pk)
      Database.getCompany Eq
  newManufacturerPart : ∀ changes,
    AnswersAsRead (store.createManufacturerPart changes) store.database.manufacturerParts.nextPk
      (·.manufacturerPart.pk) Database.getManufacturerPart Eq
  changedManufacturerPart : ∀ pk changes,
    AnswersAsRead (store.updateManufacturerPart pk changes) pk (·.manufacturerPart.pk)
      Database.getManufacturerPart Eq
  newParameter : ∀ changes,
    AnswersAsRead (store.createParameter changes) store.database.parameters.nextPk
      (·.parameter.pk) Database.getParameter Eq
  changedParameter : ∀ pk changes,
    AnswersAsRead (store.updateParameter pk changes) pk (·.parameter.pk)
      Database.getParameter Eq
  newSupplierPart : ∀ input now,
    AnswersAsRead (store.createSupplierPart input now) store.database.supplierParts.nextPk
      (·.supplierPart.pk) Database.getSupplierPart Eq
  changedSupplierPart : ∀ pk input now,
    AnswersAsRead (store.updateSupplierPart pk input now) pk (·.supplierPart.pk)
      Database.getSupplierPart Eq
  newPriceBreak : ∀ changes currencies now,
    AnswersAsRead (store.createPriceBreak changes currencies now)
      store.database.priceBreaks.nextPk (·.priceBreak.pk) Database.getPriceBreak
      PriceBreakBundle.SameAs
  changedPriceBreak : ∀ pk changes now,
    AnswersAsRead (store.updatePriceBreak pk changes now) pk (·.priceBreak.pk)
      Database.getPriceBreak PriceBreakBundle.SameAs
  newAttachment : ∀ kind input today,
    AnswersAsRead (store.createAttachment kind input today)
      (store.database.attachments kind).nextPk (·.pk) (·.getAttachment kind) Eq

variable (store : Store)

/-- Removing the image that an update leaves behind is no matter of the database. -/
theorem database_settle (update : CompanyUpdate) :
    (store.settleCompanyUpdate update).database = store.database := by
  unfold settleCompanyUpdate
  split
  · rfl
  · exact database_remove_file _ _

theorem changed_company_answers_as_read (pk : Int) (changes : CompanyChanges)
    (image : Option CompanyImage) :
    AnswersAsRead (store.updateCompany pk changes image) pk (·.company.pk)
      Database.getCompany Eq := by
  intro answer after updated
  unfold updateCompany beginCompanyUpdate at updated
  cases wanted : store.database.companies.wanted "company" pk with
  | error failure =>
      rw [wanted] at updated
      cases updated
  | ok company =>
      obtain rfl : company.pk = pk :=
        Table.pk_of_find ((Table.yields_wanted _ _ _).value wanted)
      rw [wanted] at updated
      dsimp only at updated
      cases written : store.write (store.database.draftChangedCompany company changes image) with
      | mk result between =>
          rw [written] at updated
          cases result with
          | error failure => cases updated
          | ok bundle =>
              cases updated
              obtain ⟨draft, drafted, answered, result⟩ := drafted_of_written written
              obtain ⟨key, read⟩ := Database.changed_company_is_read drafted answered
              rw [database_settle, result]
              exact ⟨key, _, read, rfl⟩

/-- No write answers with anything but what it has left in the database. -/
theorem reads_its_writes : store.ReadsItsWrites where
  newCompany _ _ := answers_of_exact_draft Database.new_company_is_read
  changedCompany := store.changed_company_answers_as_read
  newManufacturerPart _ := answers_of_exact_draft Database.new_manufacturer_part_is_read
  changedManufacturerPart _ _ :=
    answers_of_exact_draft Database.changed_manufacturer_part_is_read
  newParameter _ := answers_of_exact_draft Database.new_parameter_is_read
  changedParameter _ _ := answers_of_exact_draft Database.changed_parameter_is_read
  newSupplierPart _ _ := answers_of_exact_draft Database.new_supplier_part_is_read
  changedSupplierPart _ _ _ := answers_of_exact_draft Database.changed_supplier_part_is_read
  newPriceBreak _ _ _ := answers_of_draft Database.new_price_break_is_read
  changedPriceBreak _ _ _ := answers_of_draft Database.changed_price_break_is_read
  newAttachment _ _ _ := answers_of_exact_draft Database.new_attachment_is_read

/-- In every run, whatever is written is answered as it is read afterwards; and as long as clocks
showed years of four digits, all that is read is what its texts in the database stand for. -/
theorem writes_read_back_in_every_run (operations : List Operation) :
    (empty.after operations).ReadsItsWrites ∧
      ((∀ operation ∈ operations, operation.IsTimed) →
        (empty.after operations).database.ReadsBack) := by
  refine ⟨reads_its_writes _, ?_⟩
  intro clocks
  have times : (empty.after operations).database.IsTimed :=
    after_is_timed operations Database.empty_is_sound Database.empty_is_timed clocks
  exact Database.reads_back (reachable_is_sound operations).decimals times

end Store

namespace SmallCatalogue

/-- A price from ten pieces upward, with a place more than the number needs. -/
def price : PriceBreakChanges :=
  ⟨some 1, some ⟨false, 100, 1, by decide, by decide⟩, some none, none⟩

def quantity (shown : Except ServiceError PriceBreakBundle) : Option (Nat × Nat) :=
  shown.toOption.map fun bundle =>
    (bundle.priceBreak.quantity.magnitude, bundle.priceBreak.quantity.scale)

theorem set_up_is_timed : ∀ operation ∈ setUp, operation.IsTimed := by
  intro operation member
  simp only [setUp, List.mem_cons, List.not_mem_nil, or_false] at member
  rcases member with rfl | rfl | rfl | rfl | rfl
  · trivial
  · trivial
  · trivial
  · trivial
  · exact ⟨by decide, by decide, by decide⟩

end SmallCatalogue

open SmallCatalogue in
theorem price_is_read_in_shortest_form :
    let store := Store.empty.after setUp
    let outcome := store.createPriceBreak price .standard ⟨0, 0⟩
    (∀ operation ∈ setUp, operation.IsTimed) ∧ store.database.ReadsBack ∧
      ∃ answer found, outcome.1 = .ok answer ∧
        outcome.2.database.getPriceBreak 1 = .ok found ∧ answer.SameAs found ∧
        quantity (.ok answer) = some (100, 1) ∧ quantity (.ok found) = some (10, 0) := by
  intro store outcome
  obtain ⟨reads, texts⟩ := Store.writes_read_back_in_every_run setUp
  have succeeds : (Operation.createPriceBreak price .standard ⟨0, 0⟩).Succeeds store := by rfl
  obtain ⟨answer, written⟩ := Operation.answered_of_unread succeeds
  obtain ⟨_, found, read, same⟩ := reads.newPriceBreak price .standard ⟨0, 0⟩ answer _ written
  have given : outcome.1 = .ok answer := congrArg Prod.fst written
  have shown : outcome.2.database.getPriceBreak 1 = .ok found := read
  refine ⟨set_up_is_timed, texts set_up_is_timed, answer, found, given, shown, same, ?_, ?_⟩
  · rw [← given]
    rfl
  · rw [← shown]
    rfl

end SupplyCatalog
