import SupplyCatalog.Proofs.Integrity

/-!
# Removing rows

What is left after manufacturer parts, supplier parts or a company are removed together with the
rows that belong to them. Nothing that is left refers to a row that went: what belonged to it went
too, and a link to it was emptied.
-/

namespace SupplyCatalog

namespace Table

variable {α : Type} [Keyed α] (table : Table α)

theorem mem_left (isGone : α → Bool) (row : α) :
    row ∈ (table.keep fun row => !isGone row).rows ↔ row ∈ table.rows ∧ isGone row = false := by
  rw [mem_keep]
  simp

/-- A row whose key is not among those of the rows that go is left. -/
theorem find_left (isGone : α → Bool) {pk : Int} {row : α} (found : table.find? pk = some row)
    (stays : ((table.rows.filter isGone).map Keyed.pk).contains pk = false) :
    (table.keep fun row => !isGone row).find? pk = some row := by
  obtain ⟨member, key⟩ := (table.find_eq_some_iff pk row).1 found
  rw [find_eq_some_iff, mem_left]
  refine ⟨⟨member, ?_⟩, key⟩
  cases goes : isGone row with
  | false => rfl
  | true =>
      have among : pk ∈ (table.rows.filter isGone).map Keyed.pk :=
        List.mem_map.2 ⟨row, List.mem_filter.2 ⟨member, goes⟩, key⟩
      rw [← List.contains_iff_mem] at among
      rw [among] at stays
      exact Bool.noConfusion stays

theorem contains_left (isGone : α → Bool) {pk : Int} (present : table.contains pk = true)
    (stays : ((table.rows.filter isGone).map Keyed.pk).contains pk = false) :
    (table.keep fun row => !isGone row).contains pk = true := by
  obtain ⟨row, found⟩ := (table.contains_iff_find pk).1 present
  exact contains_of_find (table.find_left isGone found stays)

theorem find_erase {pk other : Int} (different : other ≠ pk) :
    (table.erase pk).find? other = table.find? other := by
  apply Option.ext
  intro row
  rw [find_eq_some_iff, find_eq_some_iff, mem_erase]
  constructor
  · intro holds
    rcases holds with ⟨⟨member, _⟩, key⟩
    exact ⟨member, key⟩
  · intro holds
    rcases holds with ⟨member, key⟩
    exact ⟨⟨member, key ▸ different⟩, key⟩

theorem contains_erase {pk other : Int} (present : table.contains other = true)
    (different : other ≠ pk) : (table.erase pk).contains other = true := by
  unfold contains
  rw [table.find_erase different]
  exact present

end Table

/-! ## Emptied links -/

/-- Only the link changes, and what is left of it does not lead to a row that went. -/
theorem SupplierPart.unlink_eq (row : SupplierPart) (gone : List Int) :
    ∃ link, row.unlink gone = { row with manufacturerPart := link } ∧
      ∀ pk ∈ link, pk ∈ row.manufacturerPart ∧ gone.contains pk = false := by
  unfold unlink
  split
  · exact ⟨none, rfl, by simp⟩
  · next stays =>
      refine ⟨row.manufacturerPart, rfl, ?_⟩
      intro pk linked
      refine ⟨linked, ?_⟩
      rw [Option.mem_def.1 linked] at stays
      simpa using stays

theorem StockItem.unlink_eq (item : StockItem) (gone : List Int) :
    ∃ link, item.unlink gone = { item with supplierPart := link } ∧
      ∀ pk ∈ link, pk ∈ item.supplierPart ∧ gone.contains pk = false := by
  unfold unlink
  split
  · exact ⟨none, rfl, by simp⟩
  · next stays =>
      refine ⟨item.supplierPart, rfl, ?_⟩
      intro pk through
      refine ⟨through, ?_⟩
      rw [Option.mem_def.1 through] at stays
      simpa using stays

theorem StockItem.without_customer_eq (item : StockItem) (gone : Int) :
    ∃ holder, item.withoutCustomer gone = { item with customer := holder } ∧
      ∀ pk ∈ holder, pk ∈ item.customer ∧ pk ≠ gone := by
  unfold withoutCustomer
  split
  · exact ⟨none, rfl, by simp⟩
  · next other =>
      refine ⟨item.customer, rfl, ?_⟩
      intro pk holder
      refine ⟨holder, ?_⟩
      rintro rfl
      exact other holder

theorem SupplierPart.kept_unlink {row : SupplierPart} (short : row.kept = row) (gone : List Int) :
    (row.unlink gone).kept = row.unlink gone := by
  obtain ⟨link, unlinked, _⟩ := row.unlink_eq gone
  have packSize := congrArg SupplierPart.packSize short
  have available := congrArg SupplierPart.available short
  simp only [kept] at packSize available
  simp only [unlinked, kept, packSize, available]

namespace Database

variable {database : Database}

theorem mem_unlinked (isGone : ManufacturerPart → Bool) (row : SupplierPart) :
    row ∈ (database.removeManufacturerParts isGone).supplierParts.rows ↔
      ∃ old ∈ database.supplierParts.rows,
        old.unlink ((database.manufacturerParts.rows.filter isGone).map Keyed.pk) = row := by
  refine Table.mem_map_rows _ _ ?_ row
  exact fun old => old.pk_unlink _

theorem mem_stock_unlinked (isGone : SupplierPart → Bool) (item : StockItem) :
    item ∈ (database.removeSupplierParts isGone).stock.rows ↔
      ∃ old ∈ database.stock.rows,
        old.unlink ((database.supplierParts.rows.filter isGone).map Keyed.pk) = item := by
  refine Table.mem_map_rows _ _ ?_ item
  exact fun old => old.pk_unlink _

/-! ## Keys -/

theorem HasUniqueKeys.without_manufacturer_parts (keys : database.HasUniqueKeys)
    (isGone : ManufacturerPart → Bool) :
    (database.removeManufacturerParts isGone).HasUniqueKeys where
  companies := keys.companies
  manufacturerParts := Table.distinct_by_keep keys.manufacturerParts _
  parameters := Table.distinct_by_keep keys.parameters _
  supplierParts := by
    apply Table.distinct_by_map_rows keys.supplierParts (·.unlink _) (·.pk_unlink _)
    intro row
    obtain ⟨link, unlinked, _⟩ := row.unlink_eq _
    rw [unlinked]
    rfl
  priceBreaks := keys.priceBreaks

theorem HasUniqueKeys.without_supplier_parts (keys : database.HasUniqueKeys)
    (isGone : SupplierPart → Bool) : (database.removeSupplierParts isGone).HasUniqueKeys where
  companies := keys.companies
  manufacturerParts := keys.manufacturerParts
  parameters := keys.parameters
  supplierParts := Table.distinct_by_keep keys.supplierParts _
  priceBreaks := Table.distinct_by_keep keys.priceBreaks _

theorem HasUniqueKeys.without_company (keys : database.HasUniqueKeys) (pk : Int) :
    (database.removeCompany pk).HasUniqueKeys := by
  have left := (keys.without_manufacturer_parts (·.manufacturer == pk)).without_supplier_parts
    (·.supplier == pk)
  exact { left with companies := Table.distinct_by_keep left.companies _ }

/-! ## References -/

theorem contains_unlinked (isGone : ManufacturerPart → Bool) {pk : Int}
    (present : database.supplierParts.contains pk = true) :
    (database.removeManufacturerParts isGone).supplierParts.contains pk = true := by
  refine (Table.contains_map_rows _ _ ?_ pk).2 present
  exact fun old => old.pk_unlink _

theorem HasReferences.without_manufacturer_parts (references : database.HasReferences)
    (isGone : ManufacturerPart → Bool) :
    (database.removeManufacturerParts isGone).HasReferences where
  manufacturerParts := by
    intro row member
    have before := ((Table.mem_left _ _ row).1 member).1
    exact references.manufacturerParts row before
  parameters := by
    intro row member
    obtain ⟨before, stays⟩ := (Table.mem_left _ _ row).1 member
    have present : database.manufacturerParts.contains row.manufacturerPart = true :=
      references.parameters row before
    exact Table.contains_left _ isGone present stays
  supplierParts := by
    intro row member
    obtain ⟨old, before, rfl⟩ := (mem_unlinked isGone row).1 member
    obtain ⟨offers, supplier, link⟩ := references.supplierParts old before
    obtain ⟨left, unlinked, stays⟩ := old.unlink_eq _
    rw [unlinked]
    refine ⟨offers, supplier, ?_⟩
    intro pk linked
    obtain ⟨linkedBefore, notGone⟩ := stays pk linked
    exact Table.contains_left _ isGone (link pk linkedBefore) notGone
  priceBreaks := by
    intro row member
    exact contains_unlinked isGone (references.priceBreaks row member)
  stock := by
    intro item member
    obtain ⟨part, supplierPart, customer⟩ := references.stock item member
    refine ⟨part, ?_, customer⟩
    intro pk through
    exact contains_unlinked isGone (supplierPart pk through)
  attachments := by
    intro kind row member
    cases kind with
    | company =>
        obtain ⟨sameKind, owned⟩ := references.attachments .company row member
        refine ⟨sameKind, ?_⟩
        cases owner : row.owner with
        | company pk =>
            rw [owner] at owned
            exact owned
        | manufacturerPart pk =>
            rw [owner] at sameKind
            cases sameKind
    | manufacturerPart =>
        obtain ⟨before, stays⟩ := (Table.mem_left _ _ row).1 member
        obtain ⟨sameKind, owned⟩ := references.attachments .manufacturerPart row before
        refine ⟨sameKind, ?_⟩
        cases owner : row.owner with
        | company pk =>
            rw [owner] at sameKind
            cases sameKind
        | manufacturerPart pk =>
            rw [owner] at owned
            rw [owner] at stays
            exact Table.contains_left _ isGone owned stays

theorem HasReferences.without_supplier_parts (references : database.HasReferences)
    (isGone : SupplierPart → Bool) : (database.removeSupplierParts isGone).HasReferences where
  manufacturerParts := references.manufacturerParts
  parameters := references.parameters
  supplierParts := by
    intro row member
    have before := ((Table.mem_left _ _ row).1 member).1
    exact references.supplierParts row before
  priceBreaks := by
    intro row member
    obtain ⟨before, stays⟩ := (Table.mem_left _ _ row).1 member
    have present : database.supplierParts.contains row.part = true :=
      references.priceBreaks row before
    exact Table.contains_left _ isGone present stays
  stock := by
    intro item member
    obtain ⟨old, before, rfl⟩ := (mem_stock_unlinked isGone item).1 member
    obtain ⟨part, supplierPart, customer⟩ := references.stock old before
    obtain ⟨left, unlinked, stays⟩ := old.unlink_eq _
    rw [unlinked]
    refine ⟨part, ?_, customer⟩
    intro pk through
    obtain ⟨throughBefore, notGone⟩ := stays pk through
    exact Table.contains_left _ isGone (supplierPart pk throughBefore) notGone
  attachments := by
    intro kind row member
    cases kind with
    | company => exact references.attachments .company row member
    | manufacturerPart => exact references.attachments .manufacturerPart row member

/-- What a company makes goes with it. -/
theorem not_made_by_gone {pk : Int} {row : ManufacturerPart}
    (member : row ∈ (database.removeCompany pk).manufacturerParts.rows) :
    row ∈ database.manufacturerParts.rows ∧ row.manufacturer ≠ pk := by
  obtain ⟨before, stays⟩ :=
    (Table.mem_left _ (fun row : ManufacturerPart => row.manufacturer == pk) row).1 member
  exact ⟨before, by simpa using stays⟩

/-- What a company supplies goes with it; of what others supply, links to what it made go. -/
theorem not_supplied_by_gone {pk : Int} {row : SupplierPart}
    (member : row ∈ (database.removeCompany pk).supplierParts.rows) :
    row ∈ (database.removeManufacturerParts (·.manufacturer == pk)).supplierParts.rows ∧
      row.supplier ≠ pk := by
  obtain ⟨before, stays⟩ :=
    (Table.mem_left _ (fun row : SupplierPart => row.supplier == pk) row).1 member
  exact ⟨before, by simpa using stays⟩

theorem mem_stock_without_company {pk : Int} {item : StockItem}
    (member : item ∈ (database.removeCompany pk).stock.rows) :
    ∃ old ∈ ((database.removeManufacturerParts (·.manufacturer == pk)).removeSupplierParts
        (·.supplier == pk)).stock.rows, old.withoutCustomer pk = item := by
  refine (Table.mem_map_rows _ _ ?_ item).1 member
  exact fun old => old.pk_without_customer _

theorem HasReferences.without_company (references : database.HasReferences) (pk : Int) :
    (database.removeCompany pk).HasReferences := by
  have left := (references.without_manufacturer_parts (·.manufacturer == pk)).without_supplier_parts
    (·.supplier == pk)
  constructor
  case manufacturerParts =>
    intro row member
    obtain ⟨offers, made⟩ := left.manufacturerParts row member
    exact ⟨offers, Table.contains_erase _ made (not_made_by_gone member).2⟩
  case parameters => exact left.parameters
  case supplierParts =>
    intro row member
    obtain ⟨offers, supplier, link⟩ := left.supplierParts row member
    exact ⟨offers, Table.contains_erase _ supplier (not_supplied_by_gone member).2, link⟩
  case priceBreaks => exact left.priceBreaks
  case stock =>
    intro item member
    obtain ⟨old, before, rfl⟩ := mem_stock_without_company member
    obtain ⟨part, supplierPart, customer⟩ := left.stock old before
    obtain ⟨holder, changed, stays⟩ := old.without_customer_eq pk
    rw [changed]
    refine ⟨part, supplierPart, ?_⟩
    intro other held
    obtain ⟨heldBefore, different⟩ := stays other held
    exact Table.contains_erase _ (customer other heldBefore) different
  case attachments =>
    intro kind row member
    cases kind with
    | company =>
        obtain ⟨before, stays⟩ :=
          (Table.mem_keep _ (fun row : Attachment => row.owner.pk != pk) row).1 member
        obtain ⟨sameKind, owned⟩ := left.attachments .company row before
        refine ⟨sameKind, ?_⟩
        cases owner : row.owner with
        | company other =>
            rw [owner] at owned
            have different : other ≠ pk := by simpa [owner, AttachmentOwner.pk] using stays
            exact Table.contains_erase _ owned different
        | manufacturerPart other =>
            rw [owner] at sameKind
            cases sameKind
    | manufacturerPart =>
        obtain ⟨sameKind, owned⟩ := left.attachments .manufacturerPart row member
        refine ⟨sameKind, ?_⟩
        cases owner : row.owner with
        | company other =>
            rw [owner] at sameKind
            cases sameKind
        | manufacturerPart other =>
            rw [owner] at owned
            exact owned

/-! ## Decimals -/

theorem HasShortDecimals.without_manufacturer_parts (decimals : database.HasShortDecimals)
    (isGone : ManufacturerPart → Bool) :
    (database.removeManufacturerParts isGone).HasShortDecimals where
  supplierParts := by
    intro row member
    obtain ⟨old, before, rfl⟩ := (mem_unlinked isGone row).1 member
    exact SupplierPart.kept_unlink (decimals.supplierParts old before) _
  priceBreaks := decimals.priceBreaks

theorem HasShortDecimals.without_supplier_parts (decimals : database.HasShortDecimals)
    (isGone : SupplierPart → Bool) :
    (database.removeSupplierParts isGone).HasShortDecimals where
  supplierParts := by
    intro row member
    exact decimals.supplierParts row ((Table.mem_left _ isGone row).1 member).1
  priceBreaks := by
    intro row member
    exact decimals.priceBreaks row ((Table.mem_keep _ _ row).1 member).1

/-! ## Soundness -/

theorem IsSound.without_manufacturer_parts (sound : database.IsSound)
    (isGone : ManufacturerPart → Bool) : (database.removeManufacturerParts isGone).IsSound where
  keys := sound.keys.without_manufacturer_parts isGone
  references := sound.references.without_manufacturer_parts isGone
  decimals := sound.decimals.without_manufacturer_parts isGone

theorem IsSound.without_supplier_parts (sound : database.IsSound)
    (isGone : SupplierPart → Bool) : (database.removeSupplierParts isGone).IsSound where
  keys := sound.keys.without_supplier_parts isGone
  references := sound.references.without_supplier_parts isGone
  decimals := sound.decimals.without_supplier_parts isGone

theorem IsSound.without_company (sound : database.IsSound) (pk : Int) :
    (database.removeCompany pk).IsSound where
  keys := sound.keys.without_company pk
  references := sound.references.without_company pk
  decimals := by
    have left := (sound.decimals.without_manufacturer_parts
      (·.manufacturer == pk)).without_supplier_parts (·.supplier == pk)
    exact ⟨left.supplierParts, left.priceBreaks⟩

end Database

end SupplyCatalog
