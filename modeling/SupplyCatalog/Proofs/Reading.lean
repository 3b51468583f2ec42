import SupplyCatalog.Proofs.Integrity
import SupplyCatalog.Proofs.Outcome

/-!
# Reading a sound database

Where every row that another one refers to is there, every row can be read together with all that
it refers to, and so can every list of rows.
-/

namespace SupplyCatalog.Database

variable {database : Database}

/-! ## Rows with what they refer to -/

theorem get_company_ok {pk : Int} (present : database.companies.contains pk = true) :
    ∃ bundle, database.getCompany pk = .ok bundle := by
  obtain ⟨company, found⟩ := (Table.contains_iff_find _ _).1 present
  unfold getCompany
  rw [Table.wanted_of_find _ found]
  exact ⟨database.companyBundle company, rfl⟩

theorem company_of_get {pk : Int} {company : Company} {bundle : CompanyBundle}
    (found : database.companies.find? pk = some company)
    (read : database.getCompany pk = .ok bundle) : bundle.company = company := by
  unfold getCompany at read
  rw [Table.wanted_of_find _ found] at read
  cases read
  rfl

theorem manufacturer_part_bundle_ok {row : ManufacturerPart} (stands : row.StandsIn database) :
    ∃ bundle, database.manufacturerPartBundle row = .ok bundle := by
  rcases stands with ⟨⟨part, partFound, _⟩, made⟩
  obtain ⟨company, companyFound⟩ := (Table.contains_iff_find _ _).1 made
  unfold manufacturerPartBundle
  rw [Table.related_of_find _ partFound, Table.related_of_find _ companyFound]
  exact ⟨⟨row, part, company⟩, rfl⟩

section Referring

variable (references : database.HasReferences)

include references

theorem related_manufacturer_part_ok {pk : Int}
    (present : database.manufacturerParts.contains pk = true) :
    ∃ bundle, database.relatedManufacturerPart pk = .ok bundle := by
  obtain ⟨row, found⟩ := (Table.contains_iff_find _ _).1 present
  have member := Table.mem_of_find found
  unfold relatedManufacturerPart
  rw [Table.related_of_find _ found]
  exact manufacturer_part_bundle_ok (references.manufacturerParts row member)

theorem parameter_bundle_ok {row : Parameter} (stands : row.StandsIn database) :
    ∃ bundle, database.parameterBundle row = .ok bundle := by
  obtain ⟨linked, read⟩ := related_manufacturer_part_ok references stands
  unfold parameterBundle
  rw [read]
  exact ⟨⟨row, linked⟩, rfl⟩

theorem linked_bundle_ok {link : Option Int}
    (present : ∀ pk ∈ link, database.manufacturerParts.contains pk = true) :
    ∃ bundle, database.linkedBundle link = .ok bundle := by
  cases link with
  | none => exact ⟨none, rfl⟩
  | some pk =>
      obtain ⟨linked, read⟩ := related_manufacturer_part_ok references (present pk rfl)
      unfold linkedBundle
      dsimp only
      rw [bind_of_ok read]
      exact ⟨some linked, rfl⟩

theorem supplier_part_bundle_ok {row : SupplierPart} (stands : row.StandsIn database)
    (inStock : Option Float) : ∃ bundle, database.supplierPartBundle row inStock = .ok bundle := by
  rcases stands with ⟨⟨part, partFound, _⟩, supplied, link⟩
  obtain ⟨company, companyFound⟩ := (Table.contains_iff_find _ _).1 supplied
  obtain ⟨linked, read⟩ := linked_bundle_ok references link
  unfold supplierPartBundle
  rw [bind_of_ok (Table.related_of_find _ partFound),
    bind_of_ok (Table.related_of_find _ companyFound), bind_of_ok read]
  exact ⟨⟨row, part, company, linked, inStock⟩, rfl⟩

theorem price_break_bundle_ok {row : PriceBreak} (stands : row.StandsIn database) :
    ∃ bundle, database.priceBreakBundle row = .ok bundle := by
  obtain ⟨supplierPart, found⟩ := (Table.contains_iff_find _ _).1 stands
  have member := Table.mem_of_find found
  obtain ⟨bundle, read⟩ :=
    supplier_part_bundle_ok references (references.supplierParts supplierPart member) none
  unfold priceBreakBundle
  rw [bind_of_ok (Table.related_of_find _ found), bind_of_ok read]
  exact ⟨⟨row, bundle⟩, rfl⟩

theorem get_supplier_part_ok {pk : Int} (present : database.supplierParts.contains pk = true) :
    ∃ bundle, database.getSupplierPart pk = .ok bundle := by
  obtain ⟨row, found⟩ := (Table.contains_iff_find _ _).1 present
  have member := Table.mem_of_find found
  unfold getSupplierPart
  rw [Table.wanted_of_find _ found]
  exact supplier_part_bundle_ok references (references.supplierParts row member) _

/-! ## Rows under a key that a client gives -/

theorem yields_get_manufacturer_part (pk : Int) :
    Yields (database.getManufacturerPart pk) fun _ => True := by
  apply Yields.bind (Table.yields_wanted _ _ _)
  intro row found
  have member := Table.mem_of_find found
  obtain ⟨bundle, read⟩ := manufacturer_part_bundle_ok (references.manufacturerParts row member)
  rw [read]
  exact .ok trivial

theorem yields_get_parameter (pk : Int) : Yields (database.getParameter pk) fun _ => True := by
  apply Yields.bind (Table.yields_wanted _ _ _)
  intro row found
  have member := Table.mem_of_find found
  obtain ⟨bundle, read⟩ := parameter_bundle_ok references (references.parameters row member)
  rw [read]
  exact .ok trivial

theorem yields_get_supplier_part (pk : Int) :
    Yields (database.getSupplierPart pk) fun _ => True := by
  apply Yields.bind (Table.yields_wanted _ _ _)
  intro row found
  have member := Table.mem_of_find found
  obtain ⟨bundle, read⟩ := supplier_part_bundle_ok references
    (references.supplierParts row member) (some (database.inStock row.pk))
  unfold stockedBundle
  rw [read]
  exact .ok trivial

theorem yields_get_price_break (pk : Int) :
    Yields (database.getPriceBreak pk) fun _ => True := by
  apply Yields.bind (Table.yields_wanted _ _ _)
  intro row found
  have member := Table.mem_of_find found
  obtain ⟨bundle, read⟩ := price_break_bundle_ok references (references.priceBreaks row member)
  rw [read]
  exact .ok trivial

/-! ## Lists -/

theorem list_manufacturer_parts_ok (query : ManufacturerPartQuery) :
    ∃ bundles, database.listManufacturerParts query = .ok bundles := by
  apply map_m_ok
  intro row member
  exact manufacturer_part_bundle_ok
    (references.manufacturerParts row (List.mem_filter.1 member).1)

theorem list_parameters_ok (query : ParameterQuery) :
    ∃ bundles, database.listParameters query = .ok bundles := by
  apply map_m_ok
  intro row member
  have selected := List.mem_mergeSort.1 member
  exact parameter_bundle_ok references
    (references.parameters row (List.mem_filter.1 selected).1)

theorem list_supplier_parts_ok (query : SupplierPartQuery) :
    ∃ bundles, database.listSupplierParts query = .ok bundles := by
  apply map_m_ok
  intro row member
  exact supplier_part_bundle_ok references
    (references.supplierParts row (List.mem_filter.1 member).1) _

theorem list_price_breaks_ok (query : PriceBreakQuery) :
    ∃ bundles, database.listPriceBreaks query = .ok bundles := by
  apply map_m_ok
  intro row member
  have selected := List.mem_mergeSort.1 member
  exact price_break_bundle_ok references
    (references.priceBreaks row (List.mem_filter.1 selected).1)

end Referring

end SupplyCatalog.Database
