import Mathlib.Data.List.Forall2
import SupplyCatalog.Proofs.ByteOrder
import SupplyCatalog.Proofs.FieldRule
import SupplyCatalog.Proofs.ReadBack

/-!
# Lists

A list shows the rows that pass all filters, each of them once and as it is read under its own key.
Companies and parameters stand in the order of the bytes of their names, price breaks in the order
of their supplier parts and then of their quantities, which are numbers and not texts, and all
others in the order of their keys.
-/

namespace SupplyCatalog

/-- Entries for the rows that are asked for, each row once, as it is read under its key, in an
order. -/
structure Listing {α β : Type} [Keyed α] (table : Table α) (get : Int → Except ServiceError β)
    (asked : α → Prop) (before : α → α → Prop) (rows : List α) (entries : List β) : Prop where
  read : List.Forall₂ (fun row entry => get (Keyed.pk row) = .ok entry) rows entries
  once : rows.Nodup
  mem_iff : ∀ row, row ∈ rows ↔ row ∈ table.rows ∧ asked row
  order : rows.Pairwise before

/-- The list succeeds, and this is what it shows. -/
def Lists {α β : Type} [Keyed α] (listed : Except ServiceError (List β)) (table : Table α)
    (get : Int → Except ServiceError β) (asked : α → Prop) (before : α → α → Prop) : Prop :=
  ∃ rows entries, listed = .ok entries ∧ Listing table get asked before rows entries

/-! ## Rows in an order -/

theorem forall_two_of_map_m {α β : Type} {read : α → Except ServiceError β} {rows : List α}
    {entries : List β} (reads : rows.mapM read = .ok entries) :
    List.Forall₂ (fun row entry => read row = .ok entry) rows entries := by
  induction rows generalizing entries with
  | nil =>
      cases reads
      exact .nil
  | cons row rest induction =>
      rw [List.mapM_cons] at reads
      obtain ⟨entry, first, reads⟩ := ok_of_bind reads
      obtain ⟨others, later, same⟩ := ok_of_bind reads
      cases same
      exact .cons first (induction later)

/-- Rows that differ in what they are sorted by are in strict order. -/
theorem strictly_sorted {α : Type} {rows : List α} {before strictly : α → α → Prop}
    (sorted : rows.Pairwise before) (once : rows.Nodup)
    (strict : ∀ a ∈ rows, ∀ b ∈ rows, before a b → a ≠ b → strictly a b) :
    rows.Pairwise strictly :=
  (sorted.and once).imp_of_mem fun left right holds => strict _ left _ right holds.1 holds.2

namespace Table

variable {α β : Type} [Keyed α] (table : Table α)

theorem find_of_mem {row : α} (member : row ∈ table.rows) :
    table.find? (Keyed.pk row) = some row :=
  (table.find_eq_some_iff _ row).2 ⟨member, rfl⟩

theorem rows_nodup : table.rows.Nodup := by
  apply table.ascending.imp
  intro a b less same
  rw [same] at less
  exact lt_irrefl _ less

theorem filter_ascending (select : α → Bool) :
    (table.rows.filter select).Pairwise fun a b => Keyed.pk a < Keyed.pk b :=
  table.ascending.sublist List.filter_sublist

variable {table} {get : Int → Except ServiceError β} {read : α → Except ServiceError β}
  {select : α → Bool} {asked : α → Prop} {before : α → α → Prop}

/-- Rows that a filter lets pass, arranged in some order and read one by one. -/
theorem lists_of_perm {rows : List α} {entries : List β}
    (arranged : rows.Perm (table.rows.filter select))
    (reads : List.Forall₂ (fun row entry => read row = .ok entry) rows entries)
    (same : ∀ row ∈ table.rows, get (Keyed.pk row) = read row)
    (selects : ∀ row ∈ table.rows, select row = true ↔ asked row)
    (order : (∀ row ∈ rows, row ∈ table.rows) → rows.Nodup → rows.Pairwise before) :
    Lists (.ok entries) table get asked before := by
  have once : rows.Nodup := arranged.nodup_iff.2 (table.rows_nodup.filter _)
  have members (row : α) : row ∈ rows ↔ row ∈ table.rows ∧ asked row := by
    rw [arranged.mem_iff, List.mem_filter]
    exact and_congr_right (selects row)
  have inTable (row : α) (member : row ∈ rows) : row ∈ table.rows := ((members row).1 member).1
  refine ⟨rows, entries, rfl, ?_, once, members, order inTable once⟩
  rw [List.forall₂_iff_get] at reads ⊢
  refine ⟨reads.1, ?_⟩
  intro index inRows inEntries
  rw [same _ (inTable _ (List.get_mem rows ⟨index, inRows⟩))]
  exact reads.2 index inRows inEntries

/-- Rows in the order of their keys. -/
theorem lists_by_key {entries : List β}
    (reads : List.Forall₂ (fun row entry => read row = .ok entry) (table.rows.filter select)
      entries)
    (same : ∀ row ∈ table.rows, get (Keyed.pk row) = read row)
    (selects : ∀ row, select row = true ↔ asked row) :
    Lists (.ok entries) table get asked fun a b => Keyed.pk a < Keyed.pk b :=
  lists_of_perm (.refl _) reads same (fun row _ => selects row)
    fun _ _ => table.filter_ascending select

end Table

/-! ## What queries ask for -/

theorem Query.passes_iff {α : Type} [DecidableEq α] (filter : Option α) (value : α) :
    passes filter value = true ↔ ∀ wanted ∈ filter, value = wanted := by
  simp [passes, Option.all_eq_true]

def CompanyQuery.Asks (query : CompanyQuery) (row : Company) : Prop :=
  (∀ flag ∈ query.isCustomer, row.isCustomer = flag) ∧
    (∀ flag ∈ query.isSupplier, row.isSupplier = flag) ∧
    ∀ flag ∈ query.isManufacturer, row.isManufacturer = flag

def ManufacturerPartQuery.Asks (query : ManufacturerPartQuery) (row : ManufacturerPart) : Prop :=
  (∀ part ∈ query.part, row.part = part) ∧
    ∀ company ∈ query.manufacturer, row.manufacturer = company

def ParameterQuery.Asks (query : ParameterQuery) (row : Parameter) : Prop :=
  ∀ pk ∈ query.manufacturerPart, row.manufacturerPart = pk

/-- A supplier part that is linked to nothing is made by nobody. -/
def SupplierPartQuery.Asks (query : SupplierPartQuery) (database : Database) (row : SupplierPart) :
    Prop :=
  (∀ part ∈ query.part, row.part = part) ∧ (∀ company ∈ query.supplier, row.supplier = company) ∧
    ∀ company ∈ query.manufacturer, ∃ made ∈ database.manufacturerParts.rows,
      row.manufacturerPart = some made.pk ∧ made.manufacturer = company

def PriceBreakQuery.Asks (query : PriceBreakQuery) (row : PriceBreak) : Prop :=
  ∀ pk ∈ query.part, row.part = pk

def AttachmentQuery.Asks (query : AttachmentQuery) (row : Attachment) : Prop :=
  ∀ pk ∈ query.owner, row.owner.pk = pk

theorem CompanyQuery.selects_iff {query : CompanyQuery} (unsearched : query.search = none)
    (row : Company) : query.selects row = true ↔ query.Asks row := by
  have pattern : query.searchPattern? = none := by
    unfold searchPattern?
    rw [unsearched]
    rfl
  simp only [selects, Asks, pattern, Bool.and_eq_true, Query.passes_iff, Option.all_none, and_true,
    and_assoc]

theorem ManufacturerPartQuery.selects_iff (query : ManufacturerPartQuery)
    (row : ManufacturerPart) : query.selects row = true ↔ query.Asks row := by
  simp only [selects, Asks, Bool.and_eq_true, Query.passes_iff]

theorem ParameterQuery.selects_iff (query : ParameterQuery) (row : Parameter) :
    query.selects row = true ↔ query.Asks row :=
  Query.passes_iff _ _

theorem PriceBreakQuery.selects_iff (query : PriceBreakQuery) (row : PriceBreak) :
    query.selects row = true ↔ query.Asks row :=
  Query.passes_iff _ _

namespace Database

variable (database : Database)

theorem is_made_by_iff (link : Option Int) (company : Int) :
    database.isMadeBy link company = true ↔
      ∃ made ∈ database.manufacturerParts.rows,
        link = some made.pk ∧ made.manufacturer = company := by
  unfold isMadeBy
  cases link with
  | none => simp
  | some pk =>
      simp only [Option.any_some, Option.any_eq_true, Table.find_eq_some_iff, beq_iff_eq]
      constructor
      · intro holds
        obtain ⟨made, ⟨member, rfl⟩, same⟩ := holds
        exact ⟨made, member, rfl, same⟩
      · intro holds
        obtain ⟨made, member, linked, same⟩ := holds
        exact ⟨made, ⟨member, (Option.some.inj linked).symm⟩, same⟩

theorem selects_supplier_part_iff (query : SupplierPartQuery) (row : SupplierPart) :
    database.selectsSupplierPart query row = true ↔ query.Asks database row := by
  simp only [selectsSupplierPart, SupplierPartQuery.Asks, Bool.and_eq_true, Query.passes_iff,
    Option.all_eq_true, is_made_by_iff, and_assoc]
  rfl

end Database

/-! ## Orders -/

/-- By the bytes of the names. -/
theorem bytes_of_names {left right : String} (sorted : decide (left ≤ right) = true) :
    left = right ∨ Text.utf8Bytes left < Text.utf8Bytes right := by
  rw [Text.utf8_bytes_lt_iff]
  exact eq_or_lt_of_le (of_decide_eq_true sorted)

theorem names_sorted {α : Type} (name : α → String) (rows : List α) :
    (rows.mergeSort fun a b => decide (name a ≤ name b)).Pairwise fun a b =>
      decide (name a ≤ name b) = true := by
  apply List.pairwise_mergeSort
  · intro a b c first second
    exact decide_eq_true ((of_decide_eq_true first).trans (of_decide_eq_true second))
  · intro a b
    simpa using le_total (name a) (name b)

/-- Supplier part first, then a number that stands for the quantity. -/
def PriceBreak.Precedes {ρ : Type} [LT ρ] (real : Decimal → ρ) (a b : PriceBreak) : Prop :=
  a.part < b.part ∨ a.part = b.part ∧ real a.quantity < real b.quantity

theorem Database.is_before_iff (a b : PriceBreak) :
    isBefore a b = true ↔
      a.part < b.part ∨ a.part = b.part ∧ a.quantity.toRat ≤ b.quantity.toRat := by
  simp only [isBefore, Bool.or_eq_true, Bool.and_eq_true, decide_eq_true_eq, beq_iff_eq,
    Bool.not_eq_true', decide_eq_false_iff_not, Decimal.lt_iff, not_lt]

theorem Database.price_breaks_sorted (rows : List PriceBreak) :
    (rows.mergeSort isBefore).Pairwise fun a b => isBefore a b = true := by
  apply List.pairwise_mergeSort
  · intro a b c first second
    rw [is_before_iff] at first second ⊢
    rcases first with first | ⟨same, first⟩
    · rcases second with second | ⟨alike, _⟩
      · exact .inl (first.trans second)
      · exact .inl (alike ▸ first)
    · rcases second with second | ⟨alike, second⟩
      · exact .inl (same ▸ second)
      · exact .inr ⟨same.trans alike, first.trans second⟩
  · intro a b
    rw [Bool.or_eq_true, is_before_iff, is_before_iff]
    rcases lt_trichotomy a.part b.part with less | same | greater
    · exact .inl (.inl less)
    · rcases le_total a.quantity.toRat b.quantity.toRat with less | greater
      · exact .inl (.inr ⟨same, less⟩)
      · exact .inr (.inr ⟨same.symm, greater⟩)
    · exact .inr (.inl greater)

/-- Reading decimals of at most fifteen digits as numbers of some kind keeps their order and tells
them apart. -/
structure Decimal.IsReadInOrder {ρ : Type} [LinearOrder ρ] (real : Decimal → ρ) : Prop where
  mono : ∀ a b : Decimal, a.HasAtMost 15 greatestScale → b.HasAtMost 15 greatestScale →
    a.toRat ≤ b.toRat → real a ≤ real b
  injective : ∀ a b : Decimal, a.HasAtMost 15 greatestScale → b.HasAtMost 15 greatestScale →
    real a = real b → a.toRat = b.toRat

example : Decimal.IsReadInOrder Decimal.toRat :=
  ⟨fun _ _ _ _ atMost => atMost, fun _ _ _ _ same => same⟩

theorem Decimal.IsReadInOrder.strict {ρ : Type} [LinearOrder ρ] {real : Decimal → ρ}
    (inOrder : IsReadInOrder real) {a b : Decimal} (few : a.HasAtMost 15 greatestScale)
    (alsoFew : b.HasAtMost 15 greatestScale) (less : a.toRat < b.toRat) : real a < real b := by
  refine lt_of_le_of_ne (inOrder.mono a b few alsoFew less.le) ?_
  intro same
  exact less.ne (inOrder.injective a b few alsoFew same)

/-! ## The lists of a database -/

structure Database.ListsAgree (database : Database) : Prop where
  companies : ∀ query : CompanyQuery, query.search = none →
    Lists (.ok (database.listCompanies query)) database.companies database.getCompany query.Asks
      fun a b => Text.utf8Bytes a.name < Text.utf8Bytes b.name
  /-- The counts that a company is shown with. -/
  counts : ∀ pk bundle, database.getCompany pk = .ok bundle →
    bundle.partsSupplied = (database.supplierParts.rows.filter (·.supplier = pk)).length ∧
      bundle.partsManufactured =
        (database.manufacturerParts.rows.filter (·.manufacturer = pk)).length
  manufacturerParts : ∀ query : ManufacturerPartQuery,
    Lists (database.listManufacturerParts query) database.manufacturerParts
      database.getManufacturerPart query.Asks fun a b => a.pk < b.pk
  parameters : ∀ query : ParameterQuery,
    Lists (database.listParameters query) database.parameters database.getParameter query.Asks
      fun a b => a.name = b.name ∨ Text.utf8Bytes a.name < Text.utf8Bytes b.name
  supplierParts : ∀ query : SupplierPartQuery,
    Lists (database.listSupplierParts query) database.supplierParts database.getSupplierPart
      (query.Asks database) fun a b => a.pk < b.pk
  priceBreaks : ∀ query : PriceBreakQuery,
    Lists (database.listPriceBreaks query) database.priceBreaks database.getPriceBreak query.Asks
      (PriceBreak.Precedes Decimal.toRat)
  /-- Reading the quantities as numbers of another kind, such as those of a processor, does not
  change their order. -/
  priceBreaksAsReals : ∀ {ρ : Type} [LinearOrder ρ] (real : Decimal → ρ),
    Decimal.IsReadInOrder real →
      (∀ row ∈ database.priceBreaks.rows, row.quantity.HasAtMost 15 Decimal.greatestScale) →
      ∀ query : PriceBreakQuery,
        Lists (database.listPriceBreaks query) database.priceBreaks database.getPriceBreak
          query.Asks (PriceBreak.Precedes real)
  attachments : ∀ kind (query : AttachmentQuery),
    Lists (.ok (database.listAttachments kind query)) (database.attachments kind)
      (database.getAttachment kind) query.Asks fun a b => a.pk < b.pk

namespace Database

variable {database : Database}

theorem get_company_of_mem {row : Company} (member : row ∈ database.companies.rows) :
    database.getCompany row.pk = .ok (database.companyBundle row) := by
  have found : database.companies.find? row.pk = some row := database.companies.find_of_mem member
  unfold getCompany
  rw [Table.wanted_of_find _ found]
  rfl

theorem get_supplier_part_of_mem {row : SupplierPart} (member : row ∈ database.supplierParts.rows) :
    database.getSupplierPart row.pk = database.stockedBundle row := by
  have found : database.supplierParts.find? row.pk = some row :=
    database.supplierParts.find_of_mem member
  unfold getSupplierPart
  rw [Table.wanted_of_find _ found]
  rfl

theorem get_price_break_of_mem {row : PriceBreak} (member : row ∈ database.priceBreaks.rows) :
    database.getPriceBreak row.pk = database.priceBreakBundle row := by
  have found : database.priceBreaks.find? row.pk = some row :=
    database.priceBreaks.find_of_mem member
  unfold getPriceBreak
  rw [Table.wanted_of_find _ found]
  rfl

theorem lists_companies (keys : database.HasUniqueKeys) {query : CompanyQuery}
    {asked : Company → Prop}
    (selects : ∀ row ∈ database.companies.rows, query.selects row = true ↔ asked row) :
    Lists (.ok (database.listCompanies query)) database.companies database.getCompany asked
      fun a b => Text.utf8Bytes a.name < Text.utf8Bytes b.name := by
  refine Table.lists_of_perm (List.mergeSort_perm _ fun a b => decide (a.name ≤ b.name)) ?_
    (fun row => get_company_of_mem) selects ?_
  · rw [listCompanies, List.forall₂_map_right_iff, List.forall₂_same]
    intro row _
    rfl
  · -- No two companies have the same name, so the order by names is strict.
    intro inTable once
    apply strictly_sorted (names_sorted Company.name _) once
    intro a left b right sorted different
    refine (bytes_of_names sorted).resolve_left ?_
    intro same
    exact different (keys.companies a (inTable a left) b (inTable b right) same)

theorem lists_manufacturer_parts (references : database.HasReferences)
    (query : ManufacturerPartQuery) :
    Lists (database.listManufacturerParts query) database.manufacturerParts
      database.getManufacturerPart query.Asks fun a b => a.pk < b.pk := by
  obtain ⟨entries, listed⟩ := list_manufacturer_parts_ok references query
  rw [listed]
  refine Table.lists_by_key (forall_two_of_map_m listed) ?_ query.selects_iff
  intro row member
  exact get_manufacturer_part_of_find (database.manufacturerParts.find_of_mem member)

theorem lists_parameters (references : database.HasReferences) (query : ParameterQuery) :
    Lists (database.listParameters query) database.parameters database.getParameter query.Asks
      fun a b => a.name = b.name ∨ Text.utf8Bytes a.name < Text.utf8Bytes b.name := by
  obtain ⟨entries, listed⟩ := list_parameters_ok references query
  rw [listed]
  refine Table.lists_of_perm (List.mergeSort_perm _ _) (forall_two_of_map_m listed) ?_
    (fun row _ => query.selects_iff row) ?_
  · intro row member
    exact get_parameter_of_find (database.parameters.find_of_mem member)
  · intro _ _
    exact (names_sorted Parameter.name _).imp bytes_of_names

theorem lists_supplier_parts (references : database.HasReferences) (query : SupplierPartQuery) :
    Lists (database.listSupplierParts query) database.supplierParts database.getSupplierPart
      (query.Asks database) fun a b => a.pk < b.pk := by
  obtain ⟨entries, listed⟩ := list_supplier_parts_ok references query
  rw [listed]
  exact Table.lists_by_key (forall_two_of_map_m listed) (fun row => get_supplier_part_of_mem)
    (database.selects_supplier_part_iff query)

/-- Whatever numbers quantities are read as, if these are in the same order and as distinct. -/
theorem lists_price_breaks (sound : database.IsSound) {ρ : Type} [LT ρ] (real : Decimal → ρ)
    (strict : ∀ a ∈ database.priceBreaks.rows, ∀ b ∈ database.priceBreaks.rows,
      a.quantity.toRat < b.quantity.toRat → real a.quantity < real b.quantity)
    (query : PriceBreakQuery) :
    Lists (database.listPriceBreaks query) database.priceBreaks database.getPriceBreak query.Asks
      (PriceBreak.Precedes real) := by
  obtain ⟨entries, listed⟩ := list_price_breaks_ok sound.references query
  rw [listed]
  refine Table.lists_of_perm (List.mergeSort_perm _ _) (forall_two_of_map_m listed)
    (fun row => get_price_break_of_mem) (fun row _ => query.selects_iff row) ?_
  intro inTable once
  apply strictly_sorted (price_breaks_sorted _) once
  intro a left b right sorted different
  rcases (is_before_iff a b).1 sorted with less | ⟨same, atMost⟩
  · exact .inl less
  · have distinct : a.quantity.toRat ≠ b.quantity.toRat := by
      intro alike
      exact different (sound.keys.priceBreaks a (inTable a left) b (inTable b right)
        (Prod.ext same alike))
    exact .inr ⟨same, strict a (inTable a left) b (inTable b right)
      (lt_of_le_of_ne atMost distinct)⟩

theorem lists_attachments (kind : AttachmentKind) (query : AttachmentQuery) :
    Lists (.ok (database.listAttachments kind query)) (database.attachments kind)
      (database.getAttachment kind) query.Asks fun a b => a.pk < b.pk := by
  have reads : List.Forall₂ (fun row entry => (.ok row : Except ServiceError _) = .ok entry)
      (database.listAttachments kind query) (database.listAttachments kind query) := by
    rw [List.forall₂_same]
    intro row _
    rfl
  refine Table.lists_by_key reads ?_ fun row => Query.passes_iff _ _
  intro row member
  exact Table.wanted_of_find _ ((database.attachments kind).find_of_mem member)

theorem counts_of_company {pk : Int} {bundle : CompanyBundle}
    (read : database.getCompany pk = .ok bundle) :
    bundle.partsSupplied = (database.supplierParts.rows.filter (·.supplier = pk)).length ∧
      bundle.partsManufactured =
        (database.manufacturerParts.rows.filter (·.manufacturer = pk)).length := by
  obtain ⟨row, wanted, same⟩ := ok_of_bind read
  cases same
  have key : row.pk = pk := Table.pk_of_find ((Table.yields_wanted _ _ _).value wanted)
  simp [companyBundle, countSupplied, countManufactured, key, List.countP_eq_length_filter,
    beq_eq_decide]

theorem lists_agree (sound : database.IsSound) : database.ListsAgree where
  companies _ unsearched := lists_companies sound.keys fun row _ =>
    CompanyQuery.selects_iff unsearched row
  counts _ _ read := counts_of_company read
  manufacturerParts := lists_manufacturer_parts sound.references
  parameters := lists_parameters sound.references
  supplierParts := lists_supplier_parts sound.references
  priceBreaks := lists_price_breaks sound Decimal.toRat fun _ _ _ _ less => less
  priceBreaksAsReals real inOrder few := lists_price_breaks sound real fun a left b right less =>
    inOrder.strict (few a left) (few b right) less
  attachments := lists_attachments

end Database

/-- Whatever was done before, lists show what is there, row by row as it is read. -/
theorem Store.lists_agree_in_every_run (operations : List Operation) :
    (empty.after operations).database.ListsAgree :=
  Database.lists_agree (reachable_is_sound operations)

end SupplyCatalog
