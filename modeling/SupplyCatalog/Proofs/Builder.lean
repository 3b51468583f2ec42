import SupplyCatalog.Proofs.StatementText
import SupplyCatalog.Sql.Attachment
import SupplyCatalog.Sql.Company
import SupplyCatalog.Sql.ManufacturerPart
import SupplyCatalog.Sql.SupplierPart

/-!
# Builders of statements

Every statement is built by one of the functions below from keys, queries and records. Its text
depends on the function and on the shape of the arguments (which filters are given and the like),
never on what they hold. What they hold is passed beside the text: one argument for each question
mark, in order, and null only for a field that is missing in the record.
-/

namespace SupplyCatalog.Sql

/-- The functions that build statements, each with the table that it is about. -/
inductive Builder
  | getCompany
  | getCountedCompany
  | listCompanies
  | insertCompany
  | updateCompany
  | setCompanyImage
  | countCompaniesNamed
  | deleteCompany
  | getManufacturerPart
  | findManufacturerPart
  | listManufacturerParts
  | countDuplicateManufacturerParts
  | insertManufacturerPart
  | updateManufacturerPart
  | deleteManufacturerPart
  | getParameter
  | listParameters
  | countDuplicateParameters
  | insertParameter
  | updateParameter
  | deleteParameter
  | getPart
  | insertPart
  | insertStockItem
  | inStockFilter
  | getSupplierPart
  | listSupplierParts
  | countDuplicateSupplierParts
  | insertSupplierPart
  | updateSupplierPart
  | setAvailable
  | setManufacturerPart
  | deleteSupplierPart
  | getPriceBreak
  | listPriceBreaks
  | countDuplicatePriceBreaks
  | insertPriceBreak
  | updatePriceBreak
  | deletePriceBreak
  | getAttachment
  | listAttachments
  | insertAttachment
  | setAttachmentFile
  | deleteAttachment
deriving DecidableEq

namespace Builder

@[reducible] def Arguments : Builder → Type
  | getCompany | getCountedCompany | deleteCompany | getManufacturerPart | deleteManufacturerPart
  | getParameter | deleteParameter | getPart | deleteSupplierPart | getPriceBreak
  | deletePriceBreak => Int
  | listCompanies => CompanyQuery
  | insertCompany | updateCompany => Company
  | setCompanyImage => Int × Option String
  | countCompaniesNamed => String × Option Int
  | findManufacturerPart => Int × Int × String
  | listManufacturerParts => ManufacturerPartQuery
  | countDuplicateManufacturerParts | insertManufacturerPart | updateManufacturerPart =>
      ManufacturerPart
  | listParameters => ParameterQuery
  | countDuplicateParameters | insertParameter | updateParameter => Parameter
  | insertPart => Part
  | insertStockItem => StockItem
  | inStockFilter => Unit
  | getSupplierPart => Int × Bool
  | listSupplierParts => SupplierPartQuery
  | countDuplicateSupplierParts | insertSupplierPart | updateSupplierPart => SupplierPart
  | setAvailable => Int × Decimal × Instant
  | setManufacturerPart => Int × Option Int
  | listPriceBreaks => PriceBreakQuery
  | countDuplicatePriceBreaks | insertPriceBreak | updatePriceBreak => PriceBreak
  | getAttachment | deleteAttachment => AttachmentKind × Int
  | listAttachments => AttachmentKind × Option Int
  | insertAttachment => Attachment
  | setAttachmentFile => AttachmentKind × Int × String

def statement : (builder : Builder) → builder.Arguments → Statement
  | getCompany, pk => CompanyTable.get pk
  | getCountedCompany, pk => CompanyTable.getCounted pk
  | listCompanies, query => CompanyTable.list query
  | insertCompany, company => CompanyTable.insert company
  | updateCompany, company => CompanyTable.update company
  | setCompanyImage, (pk, path) => CompanyTable.setImage pk path
  | countCompaniesNamed, (name, excluded) => CompanyTable.countNamed name excluded
  | deleteCompany, pk => CompanyTable.delete pk
  | getManufacturerPart, pk => ManufacturerPartTable.get pk
  | findManufacturerPart, (part, manufacturer, mpn) =>
      ManufacturerPartTable.find part manufacturer mpn
  | listManufacturerParts, query => ManufacturerPartTable.list query
  | countDuplicateManufacturerParts, row => ManufacturerPartTable.countDuplicates row
  | insertManufacturerPart, row => ManufacturerPartTable.insert row
  | updateManufacturerPart, row => ManufacturerPartTable.update row
  | deleteManufacturerPart, pk => ManufacturerPartTable.delete pk
  | getParameter, pk => ParameterTable.get pk
  | listParameters, query => ParameterTable.list query
  | countDuplicateParameters, row => ParameterTable.countDuplicates row
  | insertParameter, row => ParameterTable.insert row
  | updateParameter, row => ParameterTable.update row
  | deleteParameter, pk => ParameterTable.delete pk
  | getPart, pk => PartTable.get pk
  | insertPart, part => PartTable.insert part
  | insertStockItem, item => StockTable.insert item
  | inStockFilter, () => StockTable.inStockFilter
  | getSupplierPart, (pk, withStock) => SupplierPartTable.get pk withStock
  | listSupplierParts, query => SupplierPartTable.list query
  | countDuplicateSupplierParts, row => SupplierPartTable.countDuplicates row
  | insertSupplierPart, row => SupplierPartTable.insert row
  | updateSupplierPart, row => SupplierPartTable.update row
  | setAvailable, (pk, quantity, time) => SupplierPartTable.setAvailable pk quantity time
  | setManufacturerPart, (pk, linked) => SupplierPartTable.setManufacturerPart pk linked
  | deleteSupplierPart, pk => SupplierPartTable.delete pk
  | getPriceBreak, pk => PriceBreakTable.get pk
  | listPriceBreaks, query => PriceBreakTable.list query
  | countDuplicatePriceBreaks, row => PriceBreakTable.countDuplicates row
  | insertPriceBreak, row => PriceBreakTable.insert row
  | updatePriceBreak, row => PriceBreakTable.update row
  | deletePriceBreak, pk => PriceBreakTable.delete pk
  | getAttachment, (kind, pk) => AttachmentTable.get kind pk
  | listAttachments, (kind, owner) => AttachmentTable.list kind owner
  | insertAttachment, row => AttachmentTable.insert row
  | setAttachmentFile, (kind, pk, path) => AttachmentTable.setFile kind pk path
  | deleteAttachment, (kind, pk) => AttachmentTable.delete kind pk

end Builder

/-! ## The shape of the arguments -/

/-- Whether a search restricts anything: its text is given and not blank. -/
def isSearch (query : CompanyQuery) : Bool := query.search.any fun wanted => Text.trim wanted ≠ ""

theorem is_some_search_pattern (query : CompanyQuery) :
    query.searchPattern?.isSome = isSearch query := by
  cases given : query.search with
  | none => simp [CompanyQuery.searchPattern?, isSearch, given]
  | some wanted =>
      by_cases blank : Text.trim wanted = "" <;>
        simp [CompanyQuery.searchPattern?, isSearch, given, blank]

def isOfCompany (kind : AttachmentKind) : Bool := kind = .company

theorem is_of_company_injective {left right : AttachmentKind}
    (same : isOfCompany left = isOfCompany right) : left = right := by
  cases left <;> cases right <;> simp_all [isOfCompany]

/-- All that the text may show of the arguments: which optional ones are given, whether stock is
counted, and the kind of an attachment. -/
def Builder.shape : (builder : Builder) → builder.Arguments → List Bool
  | listCompanies, (query : CompanyQuery) =>
      [query.isCustomer.isSome, query.isSupplier.isSome, query.isManufacturer.isSome,
        isSearch query]
  | countCompaniesNamed, (_, excluded) => [excluded.isSome]
  | listManufacturerParts, (query : ManufacturerPartQuery) =>
      [query.part.isSome, query.manufacturer.isSome]
  | countDuplicateManufacturerParts, (row : ManufacturerPart) => [row.mpn.isSome]
  | listParameters, (query : ParameterQuery) => [query.manufacturerPart.isSome]
  | getSupplierPart, (_, withStock) => [withStock]
  | listSupplierParts, (query : SupplierPartQuery) =>
      [query.part.isSome, query.supplier.isSome, query.manufacturer.isSome]
  | listPriceBreaks, (query : PriceBreakQuery) => [query.part.isSome]
  | getAttachment, (kind, _) => [isOfCompany kind]
  | listAttachments, (kind, owner) => [isOfCompany kind, owner.isSome]
  | insertAttachment, (row : Attachment) => [isOfCompany row.owner.kind]
  | setAttachmentFile, (kind, _, _) => [isOfCompany kind]
  | deleteAttachment, (kind, _) => [isOfCompany kind]
  | _, _ => []

theorem CompanyTable.outline_list {first second : CompanyQuery}
    (customer : first.isCustomer.isSome = second.isCustomer.isSome)
    (supplier : first.isSupplier.isSome = second.isSupplier.isSome)
    (manufacturer : first.isManufacturer.isSome = second.isManufacturer.isSome)
    (searched : isSearch first = isSearch second) :
    (list first).outline = (list second).outline := by
  have pattern : first.searchPattern?.isSome = second.searchPattern?.isSome := by
    rw [is_some_search_pattern, is_some_search_pattern, searched]
  simp only [list, flagCondition, Statement.outline, Condition.outlines_append]
  rw [outlines_optional customer fun _ _ => rfl, outlines_optional supplier fun _ _ => rfl,
    outlines_optional manufacturer fun _ _ => rfl, outlines_optional pattern fun _ _ => rfl]

theorem SupplierPartTable.outline_list {first second : SupplierPartQuery}
    (part : first.part.isSome = second.part.isSome)
    (supplier : first.supplier.isSome = second.supplier.isSome)
    (manufacturer : first.manufacturer.isSome = second.manufacturer.isSome) :
    (list first).outline = (list second).outline := by
  simp only [list, Statement.outline, Condition.outlines_append]
  rw [outlines_optional part fun _ _ => rfl, outlines_optional supplier fun _ _ => rfl,
    outlines_optional manufacturer fun _ _ => rfl]

theorem ManufacturerPartTable.outline_list {first second : ManufacturerPartQuery}
    (part : first.part.isSome = second.part.isSome)
    (manufacturer : first.manufacturer.isSome = second.manufacturer.isSome) :
    (list first).outline = (list second).outline := by
  simp only [list, selectWhere, Statement.outline, Condition.outlines_append]
  rw [outlines_optional part fun _ _ => rfl, outlines_optional manufacturer fun _ _ => rfl]

theorem ManufacturerPartTable.outline_count_duplicates {first second : ManufacturerPart}
    (numbered : first.mpn.isSome = second.mpn.isSome) :
    (countDuplicates first).outline = (countDuplicates second).outline := by
  simp only [countDuplicates, mpnCondition]
  cases left : first.mpn <;> cases right : second.mpn <;> simp_all <;> rfl

theorem CompanyTable.outline_count_named {name other : String} {left right : Option Int}
    (same : left.isSome = right.isSome) :
    (countNamed name left).outline = (countNamed other right).outline := by
  simp only [countNamed, countWhere, hasValue, Statement.outline, Condition.outlines,
    Condition.outline]
  rw [outlines_optional same fun _ _ => rfl]

theorem ParameterTable.outline_list {first second : ParameterQuery}
    (same : first.manufacturerPart.isSome = second.manufacturerPart.isSome) :
    (list first).outline = (list second).outline := by
  simp only [list, selectWhere, Statement.outline]
  rw [outlines_optional same fun _ _ => rfl]

theorem PriceBreakTable.outline_list {first second : PriceBreakQuery}
    (same : first.part.isSome = second.part.isSome) :
    (list first).outline = (list second).outline := by
  simp only [list, selectWhere, Statement.outline]
  rw [outlines_optional same fun _ _ => rfl]

theorem AttachmentTable.outline_list {kind : AttachmentKind} {left right : Option Int}
    (same : left.isSome = right.isSome) :
    (list kind left).outline = (list kind right).outline := by
  simp only [list, selectWhere, Statement.outline]
  rw [outlines_optional same fun _ _ => rfl]

theorem AttachmentTable.outline_insert {first second : Attachment}
    (same : first.owner.kind = second.owner.kind) :
    (insert first).outline = (insert second).outline := by
  simp only [insert, Statement.outline, List.map_cons, List.map_nil, outlineAssignment, same]

/-- Arguments of one shape make statements that differ in nothing but their values. -/
theorem Builder.outline_of_same_shape (builder : Builder) {first second : builder.Arguments}
    (same : builder.shape first = builder.shape second) :
    (builder.statement first).outline = (builder.statement second).outline := by
  cases builder with
  | listCompanies =>
      obtain ⟨customer, others⟩ := List.cons.inj same
      obtain ⟨supplier, others⟩ := List.cons.inj others
      obtain ⟨manufacturer, searched⟩ := List.cons.inj others
      exact CompanyTable.outline_list customer supplier manufacturer (List.cons.inj searched).1
  | countCompaniesNamed => exact CompanyTable.outline_count_named (List.cons.inj same).1
  | listManufacturerParts =>
      obtain ⟨part, manufacturer⟩ := List.cons.inj same
      exact ManufacturerPartTable.outline_list part (List.cons.inj manufacturer).1
  | countDuplicateManufacturerParts =>
      exact ManufacturerPartTable.outline_count_duplicates (List.cons.inj same).1
  | listParameters => exact ParameterTable.outline_list (List.cons.inj same).1
  | getSupplierPart =>
      have sameStock : first.2 = second.2 := (List.cons.inj same).1
      obtain ⟨pk, withStock⟩ := first
      cases sameStock
      rfl
  | listSupplierParts =>
      obtain ⟨part, others⟩ := List.cons.inj same
      obtain ⟨supplier, manufacturer⟩ := List.cons.inj others
      exact SupplierPartTable.outline_list part supplier (List.cons.inj manufacturer).1
  | listPriceBreaks => exact PriceBreakTable.outline_list (List.cons.inj same).1
  | listAttachments =>
      obtain ⟨sameKind, owner⟩ := List.cons.inj same
      have sameKind : first.1 = second.1 := is_of_company_injective sameKind
      obtain ⟨kind, left⟩ := first
      cases sameKind
      exact AttachmentTable.outline_list (List.cons.inj owner).1
  | insertAttachment =>
      exact AttachmentTable.outline_insert (is_of_company_injective (List.cons.inj same).1)
  | getAttachment | setAttachmentFile | deleteAttachment =>
      have sameKind : first.1 = second.1 := is_of_company_injective (List.cons.inj same).1
      obtain ⟨kind, left⟩ := first
      cases sameKind
      rfl
  | _ => rfl

/-! ## Names -/

theorem unmarked_columns {table : String} {columns : List String}
    (unmarked : ∀ name ∈ table :: columns, marks name = 0) :
    Unmarked ((selectColumns table columns).flatMap Selected.names) := by
  intro name found
  simp only [selectColumns, List.flatMap_map, List.mem_flatMap, Selected.names, names_column_of,
    List.mem_cons, List.not_mem_nil, or_false] at found
  obtain ⟨column, member, rfl | rfl⟩ := found
  · exact unmarked _ List.mem_cons_self
  · exact unmarked _ (List.mem_cons_of_mem _ member)

theorem CompanyTable.columns_unmarked :
    Unmarked ((selectColumns table columns).flatMap Selected.names) :=
  unmarked_columns (by decide)

theorem ManufacturerPartTable.columns_unmarked :
    Unmarked ((selectColumns table columns).flatMap Selected.names) :=
  unmarked_columns (by decide)

theorem ParameterTable.columns_unmarked :
    Unmarked ((selectColumns table columns).flatMap Selected.names) :=
  unmarked_columns (by decide)

theorem PartTable.columns_unmarked :
    Unmarked ((selectColumns table columns).flatMap Selected.names) :=
  unmarked_columns (by decide)

theorem SupplierPartTable.columns_unmarked :
    Unmarked ((selectColumns table columns).flatMap Selected.names) :=
  unmarked_columns (by decide)

theorem PriceBreakTable.columns_unmarked :
    Unmarked ((selectColumns table columns).flatMap Selected.names) :=
  unmarked_columns (by decide)

/-- No builder writes a question mark into a name. -/
theorem Builder.names_unmarked (builder : Builder) (arguments : builder.Arguments) :
    Unmarked (builder.statement arguments).names := by
  cases builder with
  | getCompany | getCountedCompany | listCompanies =>
      simp +decide [statement, CompanyTable.get, CompanyTable.getCounted, CompanyTable.list,
        CompanyTable.partCounts, CompanyTable.flagCondition, CompanyTable.searchCondition,
        CompanyTable.columns_unmarked]
  | insertCompany | updateCompany | deleteCompany =>
      simp +decide [statement, CompanyTable.insert, CompanyTable.update, CompanyTable.delete,
        CompanyTable.leadingAssignments, CompanyTable.trailingAssignments]
  | setCompanyImage | countCompaniesNamed =>
      obtain ⟨first, second⟩ := arguments
      simp +decide [statement, CompanyTable.setImage, CompanyTable.countNamed, countWhere]
  | getManufacturerPart | listManufacturerParts =>
      simp +decide [statement, ManufacturerPartTable.get, ManufacturerPartTable.list,
        ManufacturerPartTable.selectWhere, ManufacturerPartTable.columns_unmarked]
  | findManufacturerPart =>
      obtain ⟨part, manufacturer, mpn⟩ := arguments
      simp +decide [statement, ManufacturerPartTable.find, ManufacturerPartTable.selectWhere,
        ManufacturerPartTable.columns_unmarked]
  | countDuplicateManufacturerParts =>
      cases mpn : ManufacturerPart.mpn arguments <;>
        simp +decide [statement, ManufacturerPartTable.countDuplicates, countWhere,
          ManufacturerPartTable.mpnCondition, mpn]
  | insertManufacturerPart | updateManufacturerPart | deleteManufacturerPart =>
      simp +decide [statement, ManufacturerPartTable.insert, ManufacturerPartTable.update,
        ManufacturerPartTable.delete, ManufacturerPartTable.assignments]
  | getParameter | listParameters | countDuplicateParameters =>
      simp +decide [statement, ParameterTable.get, ParameterTable.list, ParameterTable.selectWhere,
        ParameterTable.countDuplicates, countWhere, ParameterTable.columns_unmarked]
  | insertParameter | updateParameter | deleteParameter =>
      simp +decide [statement, ParameterTable.insert, ParameterTable.update,
        ParameterTable.delete, ParameterTable.assignments]
  | getPart =>
      simp +decide [statement, PartTable.get, PartTable.columns_unmarked]
  | insertPart => simp +decide [statement, PartTable.insert]
  | insertStockItem => simp +decide [statement, StockTable.insert]
  | inStockFilter => simp +decide [statement, StockTable.inStockFilter, StockTable.inStock]
  | getSupplierPart =>
      obtain ⟨pk, withStock⟩ := arguments
      cases withStock <;>
        simp +decide [statement, SupplierPartTable.get, SupplierPartTable.selected,
          SupplierPartTable.inStock, StockTable.inStock, SupplierPartTable.columns_unmarked]
  | listSupplierParts =>
      simp +decide [statement, SupplierPartTable.list, SupplierPartTable.selected,
        SupplierPartTable.inStock, StockTable.inStock, SupplierPartTable.columns_unmarked]
  | countDuplicateSupplierParts =>
      simp +decide [statement, SupplierPartTable.countDuplicates, countWhere]
  | insertSupplierPart | updateSupplierPart | deleteSupplierPart =>
      simp +decide [statement, SupplierPartTable.insert, SupplierPartTable.update,
        SupplierPartTable.delete, SupplierPartTable.editable]
  | setAvailable =>
      obtain ⟨pk, quantity, time⟩ := arguments
      simp +decide [statement, SupplierPartTable.setAvailable]
  | setManufacturerPart =>
      obtain ⟨pk, linked⟩ := arguments
      simp +decide [statement, SupplierPartTable.setManufacturerPart]
  | getPriceBreak | listPriceBreaks | countDuplicatePriceBreaks =>
      simp +decide [statement, PriceBreakTable.get, PriceBreakTable.list,
        PriceBreakTable.selectWhere, PriceBreakTable.countDuplicates, countWhere,
        PriceBreakTable.columns_unmarked]
  | insertPriceBreak | updatePriceBreak | deletePriceBreak =>
      simp +decide [statement, PriceBreakTable.insert, PriceBreakTable.update,
        PriceBreakTable.delete, PriceBreakTable.assignments]
  | getAttachment | listAttachments | deleteAttachment =>
      obtain ⟨kind, other⟩ := arguments
      cases kind <;>
        simp +decide [statement, AttachmentTable.get, AttachmentTable.list, AttachmentTable.delete,
          AttachmentTable.selectWhere, AttachmentTable.table, AttachmentTable.ownerColumn]
  | insertAttachment =>
      cases kind : arguments.owner.kind <;>
        simp +decide [statement, AttachmentTable.insert, AttachmentTable.table,
          AttachmentTable.ownerColumn, kind]
  | setAttachmentFile =>
      obtain ⟨kind, pk, path⟩ := arguments
      cases kind <;> simp +decide [statement, AttachmentTable.setFile, AttachmentTable.table]

/-! ## What is bound -/

/-- What a field holds, as the database knows it. -/
inductive Datum
  | flag (value : Bool)
  | number (value : Int)
  | real (value : Float)
  | text (value : String)

def Datum.argument : Datum → Argument
  | flag value => .integer (if value then 1 else 0)
  | number value => .integer value
  | real value => .real value
  | text value => .text value

theorem Datum.argument_ne_null (datum : Datum) : datum.argument ≠ .null := by
  cases datum <;> simp [argument]

/-- A field of a record, which may be missing. -/
abbrev Field := Option Datum

namespace Field

def key (pk : Int) : Field := some (.number pk)

def text (value : String) : Field := some (.text value)

def flag (value : Bool) : Field := some (.flag value)

def decimal (value : Decimal) : Field := text value.normalize.toText

def optionalKey (pk : Option Int) : Field := pk.map .number

def optionalText (value : Option String) : Field := value.map .text

def optionalDecimal (value : Option Decimal) : Field :=
  value.map fun decimal => .text decimal.normalize.toText

def optionalInstant (value : Option Instant) : Field :=
  value.map fun instant => .text instant.toOffsetText

/-- The argument that a field is to be passed as: its value, or null where it is missing. -/
def argument : Field → Argument
  | some datum => datum.argument
  | none => .null

theorem argument_eq_null {field : Field} : field.argument = .null ↔ field = none := by
  cases field with
  | none => simp [argument]
  | some datum => simpa [argument] using datum.argument_ne_null

end Field

def given {Filter : Type} (filter : Option Filter) (fields : Filter → List Field) : List Field :=
  filter.toList.flatMap fields

namespace Builder

def companyFields (company : Company) : List Field :=
  [.text company.name, .text company.description, .text company.website, .text company.phone,
    .text company.address, .text company.email, .text company.currency, .text company.contact,
    .text company.link]

def companyTailFields (company : Company) : List Field :=
  [.flag company.isCustomer, .flag company.isSupplier, .flag company.isManufacturer,
    .text company.notes]

def manufacturerPartFields (row : ManufacturerPart) : List Field :=
  [.key row.part, .key row.manufacturer, .optionalText row.mpn, .text row.description,
    .text row.link]

def parameterFields (row : Parameter) : List Field :=
  [.key row.manufacturerPart, .text row.name, .text row.value, .text row.units]

def supplierPartFields (row : SupplierPart) : List Field :=
  [.key row.part, .key row.supplier, .optionalKey row.manufacturerPart, .text row.sku,
    .text row.description, .text row.link, .text row.note, .text row.packaging,
    .decimal row.packSize]

def priceBreakFields (row : PriceBreak) : List Field :=
  [.key row.part, .decimal row.quantity, .optionalDecimal row.price, .text row.priceCurrency,
    .optionalInstant row.updated]

def stockFields : List Field := [.key 0, .flag false]

/-- What is to be bound, spelled field by field in the order of the question marks. -/
def fields : (builder : Builder) → builder.Arguments → List Field
  | getCompany, pk => [.key pk]
  | getCountedCompany, pk => [.key pk]
  | listCompanies, (query : CompanyQuery) =>
      given query.isCustomer (fun flag => [.flag flag]) ++
        given query.isSupplier (fun flag => [.flag flag]) ++
        given query.isManufacturer (fun flag => [.flag flag]) ++
        given query.searchPattern? fun pattern => [.text pattern, .text pattern]
  | insertCompany, (company : Company) =>
      companyFields company ++ [.optionalText company.image] ++ companyTailFields company
  | updateCompany, (company : Company) =>
      companyFields company ++ companyTailFields company ++ [.key company.pk]
  | setCompanyImage, (pk, path) => [.optionalText path, .key pk]
  | countCompaniesNamed, (name, excluded) => .text name :: given excluded fun pk => [.key pk]
  | deleteCompany, pk => [.key pk]
  | getManufacturerPart, pk => [.key pk]
  | findManufacturerPart, (part, manufacturer, mpn) => [.key part, .key manufacturer, .text mpn]
  | listManufacturerParts, (query : ManufacturerPartQuery) =>
      given query.part (fun part => [.key part]) ++
        given query.manufacturer fun manufacturer => [.key manufacturer]
  | countDuplicateManufacturerParts, (row : ManufacturerPart) =>
      [.key row.part, .key row.manufacturer, .key row.pk] ++ given row.mpn fun mpn => [.text mpn]
  | insertManufacturerPart, row => manufacturerPartFields row
  | updateManufacturerPart, (row : ManufacturerPart) => manufacturerPartFields row ++ [.key row.pk]
  | deleteManufacturerPart, pk => [.key pk]
  | getParameter, pk => [.key pk]
  | listParameters, (query : ParameterQuery) => given query.manufacturerPart fun pk => [.key pk]
  | countDuplicateParameters, (row : Parameter) =>
      [.key row.manufacturerPart, .text row.name, .key row.pk]
  | insertParameter, row => parameterFields row
  | updateParameter, (row : Parameter) => parameterFields row ++ [.key row.pk]
  | deleteParameter, pk => [.key pk]
  | getPart, pk => [.key pk]
  | insertPart, (part : Part) =>
      [.text part.name, .text part.ipn, .text part.revision, .text part.description,
        .optionalText part.image, .text part.units, .flag part.active, .flag part.assembly,
        .flag part.purchaseable, .flag part.salable, .flag part.trackable, .flag part.isVirtual]
  | insertStockItem, (item : StockItem) =>
      [.key item.part, .optionalKey item.supplierPart, some (.real item.quantity),
        .flag item.isBuilding, .optionalKey item.customer]
  | inStockFilter, () => stockFields
  | getSupplierPart, (pk, withStock) =>
      (if withStock then stockFields ++ [some (.real 0.0)] else []) ++ [.key pk]
  | listSupplierParts, (query : SupplierPartQuery) =>
      stockFields ++ [some (.real 0.0)] ++ (given query.part (fun part => [.key part]) ++
        given query.supplier (fun supplier => [.key supplier]) ++
        given query.manufacturer fun manufacturer => [.key manufacturer])
  | countDuplicateSupplierParts, (row : SupplierPart) =>
      [.key row.part, .key row.supplier, .text row.sku, .key row.pk]
  | insertSupplierPart, (row : SupplierPart) =>
      supplierPartFields row ++ [.text row.barcodeHash, .optionalInstant row.updated]
  | updateSupplierPart, (row : SupplierPart) =>
      supplierPartFields row ++ [.optionalInstant row.updated, .key row.pk]
  | setAvailable, (pk, quantity, time) =>
      [.decimal quantity, .text (Instant.toOffsetText time), .key pk]
  | setManufacturerPart, (pk, linked) => [.optionalKey linked, .key pk]
  | deleteSupplierPart, pk => [.key pk]
  | getPriceBreak, pk => [.key pk]
  | listPriceBreaks, (query : PriceBreakQuery) => given query.part fun part => [.key part]
  | countDuplicatePriceBreaks, (row : PriceBreak) =>
      [.key row.part, .decimal row.quantity, .key row.pk]
  | insertPriceBreak, row => priceBreakFields row
  | updatePriceBreak, (row : PriceBreak) => priceBreakFields row ++ [.key row.pk]
  | deletePriceBreak, pk => [.key pk]
  | getAttachment, (_, pk) => [.key pk]
  | listAttachments, (_, owner) => given owner fun pk => [.key pk]
  | insertAttachment, (row : Attachment) =>
      [.key row.owner.pk, .optionalText row.path, .text row.link, .text row.comment,
        .text row.uploadDate.toText, .optionalKey row.user]
  | setAttachmentFile, (_, pk, path) => [.text path, .key pk]
  | deleteAttachment, (_, pk) => [.key pk]

end Builder

section Arguments

@[simp] theorem argument_of_bool (value : Bool) :
    Argument.ofValue (.ofBool value) = (Field.flag value).argument := rfl

@[simp] theorem argument_of_key (key : Int) :
    Argument.ofValue (.ofKey key) = (Field.key key).argument := rfl

@[simp] theorem argument_of_text (value : String) :
    Argument.ofValue (.ofText value) = (Field.text value).argument := rfl

@[simp] theorem argument_of_decimal (value : Decimal) :
    Argument.ofValue (.ofDecimal value) = (Field.decimal value).argument := rfl

@[simp] theorem argument_of_double (value : Float) :
    Argument.ofValue (.double (some value)) = Field.argument (some (.real value)) := rfl

@[simp] theorem argument_of_optional_key (key : Option Int) :
    Argument.ofValue (.int64 key) = (Field.optionalKey key).argument := by
  cases key <;> rfl

@[simp] theorem argument_of_optional_text (value : Option String) :
    Argument.ofValue (.text value) = (Field.optionalText value).argument := by
  cases value <;> rfl

@[simp] theorem argument_of_optional_decimal (value : Option Decimal) :
    Argument.ofValue (.ofOptionalDecimal value) = (Field.optionalDecimal value).argument := by
  cases value <;> rfl

@[simp] theorem argument_of_optional_instant (value : Option Instant) :
    Argument.ofValue (.ofOptionalInstant value) = (Field.optionalInstant value).argument := by
  cases value <;> rfl

end Arguments

/-- The values are passed as the fields say, one by one. -/
def Binds (values : List Value) (fields : List Field) : Prop :=
  values.map Argument.ofValue = fields.map Field.argument

theorem Binds.cons {value : Value} {field : Field} {values : List Value} {fields : List Field}
    (first : Argument.ofValue value = field.argument) (rest : Binds values fields) :
    Binds (value :: values) (field :: fields) := by
  simp only [Binds, List.map_cons] at *
  rw [first, rest]

theorem Binds.append {left right : List Value} {first second : List Field}
    (front : Binds left first) (back : Binds right second) :
    Binds (left ++ right) (first ++ second) := by
  simp only [Binds, List.map_append] at *
  rw [front, back]

/-- A filter binds what stands for it, and nothing where it is not given. -/
theorem Binds.optional {Filter : Type} {filter : Option Filter} {condition : Filter → Condition}
    {fields : Filter → List Field}
    (bound : ∀ value, Binds (condition value).values (fields value)) :
    Binds (Condition.valuesOf (optional filter condition)) (given filter fields) := by
  cases filter with
  | none => rfl
  | some value => simpa [Binds, Sql.optional, given, Condition.valuesOf] using bound value

theorem values_of_append (left right : List Condition) :
    Condition.valuesOf (left ++ right) = Condition.valuesOf left ++ Condition.valuesOf right := by
  induction left with
  | nil => rfl
  | cons condition rest induction => simp [Condition.valuesOf, induction]

theorem values_has_bare_key (key : Int) : (hasBareKey key).values = [.ofKey key] := rfl

theorem values_of_columns (table : String) (columns : List String) :
    (selectColumns table columns).flatMap Selected.values = [] := by
  simp [selectColumns, List.flatMap_map, Selected.values]

theorem CompanyTable.binds_list (query : CompanyQuery) :
    Binds (list query).values (Builder.listCompanies.fields query) := by
  have counts : partCounts.flatMap Selected.values = [] := rfl
  simp only [list, flagCondition, Statement.values, List.flatMap_append, values_of_columns, counts,
    values_of_append, List.nil_append]
  refine Binds.append (.append (.append ?_ ?_) ?_) ?_ <;> exact Binds.optional fun _ => rfl

theorem SupplierPartTable.binds_list (query : SupplierPartQuery) :
    Binds (list query).values (Builder.listSupplierParts.fields query) := by
  have stock : Binds ((selected true).flatMap Selected.values)
      (Builder.stockFields ++ [some (.real 0.0)]) := rfl
  simp only [list, Statement.values, values_of_append]
  refine stock.append (.append (.append ?_ ?_) ?_) <;> exact Binds.optional fun _ => rfl

theorem ManufacturerPartTable.binds_list (query : ManufacturerPartQuery) :
    Binds (list query).values (Builder.listManufacturerParts.fields query) := by
  simp only [list, selectWhere, Statement.values, values_of_columns, values_of_append,
    List.nil_append]
  refine Binds.append ?_ ?_ <;> exact Binds.optional fun _ => rfl

theorem ManufacturerPartTable.binds_count_duplicates (row : ManufacturerPart) :
    Binds (countDuplicates row).values (Builder.countDuplicateManufacturerParts.fields row) := by
  obtain ⟨pk, part, manufacturer, mpn, description, link⟩ := row
  cases mpn <;> rfl

/-- Every builder binds the fields of its arguments, in order. -/
theorem Builder.binds (builder : Builder) (arguments : builder.Arguments) :
    Binds (builder.statement arguments).values (builder.fields arguments) := by
  cases builder with
  | listCompanies => exact CompanyTable.binds_list arguments
  | countCompaniesNamed =>
      have name : Binds [.ofText arguments.1] [.text arguments.1] := rfl
      exact name.append (.optional fun _ => rfl)
  | insertCompany =>
      simp [Binds, statement, fields, Statement.values, CompanyTable.insert, companyFields,
        CompanyTable.leadingAssignments, companyTailFields, CompanyTable.trailingAssignments]
  | setCompanyImage => exact Binds.cons (argument_of_optional_text arguments.2) rfl
  | listManufacturerParts => exact ManufacturerPartTable.binds_list arguments
  | countDuplicateManufacturerParts => exact ManufacturerPartTable.binds_count_duplicates arguments
  | insertManufacturerPart | updateManufacturerPart =>
      simp [Binds, statement, fields, Statement.values, ManufacturerPartTable.insert,
        ManufacturerPartTable.update, ManufacturerPartTable.assignments, manufacturerPartFields,
        Condition.valuesOf, values_has_bare_key]
  | listParameters | listPriceBreaks | listAttachments => exact Binds.optional fun _ => rfl
  | insertPart => simp [Binds, statement, fields, Statement.values, PartTable.insert]
  | insertStockItem => simp [Binds, statement, fields, Statement.values, StockTable.insert]
  | getSupplierPart =>
      obtain ⟨pk, withStock⟩ := arguments
      cases withStock <;> rfl
  | listSupplierParts => exact SupplierPartTable.binds_list arguments
  | insertSupplierPart | updateSupplierPart =>
      simp [Binds, statement, fields, Statement.values, SupplierPartTable.insert,
        SupplierPartTable.update, SupplierPartTable.editable, supplierPartFields,
        Condition.valuesOf, values_has_bare_key]
  | setManufacturerPart => exact Binds.cons (argument_of_optional_key arguments.2) rfl
  | insertPriceBreak | updatePriceBreak =>
      simp [Binds, statement, fields, Statement.values, PriceBreakTable.insert,
        PriceBreakTable.update, PriceBreakTable.assignments, priceBreakFields,
        Condition.valuesOf, values_has_bare_key]
  | insertAttachment => simp [Binds, statement, fields, Statement.values, AttachmentTable.insert]
  | _ => rfl

/-! ## The text and what is bound -/

/-- Arguments of one shape make one text, whatever they hold. The text has a question mark for each
bound value, and the values are passed one by one, in order: what a field holds as it is, and null
exactly for a field that is missing. -/
theorem Builder.text_apart_from_data (builder : Builder) :
    (∀ first second : builder.Arguments, builder.shape first = builder.shape second →
      (builder.statement first).text = (builder.statement second).text) ∧
    ∀ arguments : builder.Arguments,
      marks (builder.statement arguments).text = (builder.statement arguments).values.length ∧
      (builder.statement arguments).arguments.length =
        (builder.statement arguments).values.length ∧
      (builder.statement arguments).arguments = (builder.fields arguments).map Field.argument ∧
      ∀ position : Nat,
        (builder.statement arguments).arguments[position]? = some Argument.null ↔
          (builder.fields arguments)[position]? = some none := by
  constructor
  · intro first second same
    exact Statement.text_of_same_outline (builder.outline_of_same_shape same)
  · intro arguments
    have bound : (builder.statement arguments).arguments =
        (builder.fields arguments).map Field.argument := builder.binds arguments
    have marked := Statement.marks_text (builder.names_unmarked arguments)
    refine ⟨marked, List.length_map _, bound, fun position => ?_⟩
    rw [bound, List.getElem?_map]
    cases (builder.fields arguments)[position]? with
    | none => simp
    | some field => simp [Field.argument_eq_null]

/-- Two searches with quotes and question marks in them share their text. -/
theorem text_of_searches_with_quotes :
    Builder.listCompanies.shape ⟨some true, none, none, some "O'Hara?"⟩ =
      Builder.listCompanies.shape ⟨some false, none, none, some " \"; --"⟩ ∧
    (CompanyTable.list ⟨some true, none, none, some "O'Hara?"⟩).text =
      (CompanyTable.list ⟨some false, none, none, some " \"; --"⟩).text :=
  ⟨by decide, (Builder.text_apart_from_data .listCompanies).1 _ _ (by decide)⟩

end SupplyCatalog.Sql
