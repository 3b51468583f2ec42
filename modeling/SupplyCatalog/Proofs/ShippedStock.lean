import SupplyCatalog.Proofs.Cascade
import SupplyCatalog.Store.Reading

/-!
# Stock with a customer

Stock that is with a customer is not counted for the supplier part through which it came. When the
customer goes, the stock stays and is with nobody, so that it is counted from then on. That is the
only way in which the removal of a company touches what is counted for a supplier part that stays.
-/

namespace SupplyCatalog

/-- Stock that would be counted if it were not with the customer. -/
def StockItem.isShippedTo (item : StockItem) (customer : Int) : Bool :=
  0.0 < item.quantity && !item.isBuilding && item.customer == some customer

/-- The item when nobody has it any more. -/
def StockItem.returned (item : StockItem) : StockItem := { item with customer := none }

/-! ## One item -/

section Item

variable {removal : Removal} {customer supplierPart : Int} {item : StockItem}

theorem Removal.left_eq_some_iff {gone : Int → Bool} {reference : Option Int} {pk : Int}
    (stays : gone pk = false) : left gone reference = some pk ↔ reference = some pk := by
  rw [left, Option.filter_eq_some_iff]
  constructor
  · intro holds
    exact holds.1
  · intro leads
    simp [leads, stays]

theorem StockItem.is_in_stock_without (gone : removal.companies = (· == customer)) :
    (item.without removal).isInStock = (item.isInStock || item.isShippedTo customer) := by
  cases holder : item.customer with
  | none => simp [isInStock, isShippedTo, without, Removal.left, holder]
  | some other =>
      by_cases same : other = customer <;>
        simp [isInStock, isShippedTo, without, Removal.left, holder, gone, same]

theorem StockItem.without_eq_returned (gone : removal.companies = (· == customer))
    (stays : removal.supplierParts supplierPart = false)
    (through : item.supplierPart = some supplierPart)
    (counts : (item.isInStock || item.isShippedTo customer) = true) :
    item.without removal = item.returned := by
  have link : Removal.left removal.supplierParts item.supplierPart = item.supplierPart := by
    rw [through, Removal.left_eq_some_iff stays]
  have nobody : Removal.left removal.companies item.customer = none := by
    rw [← StockItem.is_in_stock_without gone] at counts
    simpa [isInStock, without] using (Bool.and_eq_true_iff.1 counts).2
  simp only [without, returned, link, nobody]

theorem StockItem.returned_eq_self (inStock : item.isInStock = true) : item.returned = item := by
  have nobody : item.customer = none := by
    simpa [isInStock] using (Bool.and_eq_true_iff.1 inStock).2
  cases item
  simp_all [returned]

end Item

/-! ## What is counted -/

namespace Database

variable {database : Database} {removal : Removal} {customer supplierPart : Int}

theorem counted_without (gone : removal.companies = (· == customer))
    (stays : removal.supplierParts supplierPart = false) :
    (database.without removal).counted supplierPart =
      (database.stock.rows.filter fun item => item.supplierPart == some supplierPart &&
        (item.isInStock || item.isShippedTo customer)).map StockItem.returned := by
  have test : ∀ item ∈ database.stock.rows,
      ((item.without removal).supplierPart == some supplierPart &&
          (item.without removal).isInStock) =
        (item.supplierPart == some supplierPart &&
          (item.isInStock || item.isShippedTo customer)) := by
    intro item _
    have link : ((item.without removal).supplierPart == some supplierPart) =
        (item.supplierPart == some supplierPart) := by
      rw [Bool.eq_iff_iff, beq_iff_eq, beq_iff_eq]
      exact Removal.left_eq_some_iff stays
    rw [link, StockItem.is_in_stock_without gone]
  have rows : (database.without removal).stock.rows =
      database.stock.rows.map (·.without removal) := rfl
  rw [counted, rows, List.filter_map]
  refine (congrArg _ (List.filter_congr test)).trans ?_
  refine List.map_congr_left fun item member => ?_
  obtain ⟨through, counts⟩ := Bool.and_eq_true_iff.1 (List.mem_filter.1 member).2
  exact StockItem.without_eq_returned gone stays (beq_iff_eq.1 through) counts

/-- The same stock is counted exactly when none of it was with the customer. -/
theorem same_counted_iff (gone : removal.companies = (· == customer))
    (stays : removal.supplierParts supplierPart = false) :
    (∀ item, item ∈ (database.without removal).counted supplierPart ↔
        item ∈ database.counted supplierPart) ↔
      ∀ item ∈ database.stock.rows, item.supplierPart = some supplierPart →
        item.isShippedTo customer = false := by
  rw [counted_without gone stays]
  constructor
  · intro same item member through
    by_contra shipped
    have shipped : item.isShippedTo customer = true := by simpa using shipped
    have after : item.returned ∈ database.counted supplierPart := by
      refine (same _).1 (List.mem_map_of_mem (List.mem_filter.2 ⟨member, ?_⟩))
      simp [through, shipped]
    -- Before, the item stood in the table with its customer, and under its key nothing else did.
    have alike : item.returned = item :=
      database.stock.row_eq_of_pk_eq (List.mem_filter.1 after).1 member rfl
    have nobody : item.customer = none := (congrArg StockItem.customer alike).symm
    simp [StockItem.isShippedTo, nobody] at shipped
  · intro spared item
    have counts : database.stock.rows.filter (fun item =>
          item.supplierPart == some supplierPart &&
            (item.isInStock || item.isShippedTo customer)) =
        database.counted supplierPart := by
      refine List.filter_congr fun item member => ?_
      by_cases through : item.supplierPart = some supplierPart
      · simp [through, spared item member through]
      · rw [beq_eq_false_iff_ne.2 through, Bool.false_and, Bool.false_and]
    have returned : (database.counted supplierPart).map StockItem.returned =
        database.counted supplierPart := by
      have each : ∀ item ∈ database.counted supplierPart, item.returned = item := by
        intro item member
        exact StockItem.returned_eq_self (Bool.and_eq_true_iff.1 (List.mem_filter.1 member).2).2
      rw [List.map_congr_left each, List.map_id']
    rw [counts, returned]

/-- The key of a supplier part that stays is not among those that go. -/
theorem stays_of_contains (contained : (database.without removal).supplierParts.contains
    supplierPart = true) : removal.supplierParts supplierPart = false := by
  obtain ⟨row, member, key⟩ := (Table.contains_iff _ _).1 contained
  have kept : (!removal.supplierParts (Keyed.pk row)) = true := ((Table.mem_keep _ _ _).1 member).2
  rw [key] at kept
  simpa using kept

end Database

/-! ## Companies -/

/-- After any run, when a company goes, the stock counted for a supplier part that stays is what was
counted before together with what was with the company as a customer. So the same stock is counted
exactly when no stock of the supplier part was with it. -/
theorem Store.stock_counted_after_deletion (operations : List Operation)
    (company supplierPart : Int) :
    let before := empty.after operations
    let after := ((Operation.deleteCompany company).run before).2
    (Operation.deleteCompany company).Succeeds before →
    after.database.supplierParts.contains supplierPart = true →
      after.database.counted supplierPart =
          (before.database.stock.rows.filter fun item => item.supplierPart == some supplierPart &&
            (item.isInStock || item.isShippedTo company)).map StockItem.returned ∧
        ((∀ item, item ∈ after.database.counted supplierPart ↔
            item ∈ before.database.counted supplierPart) ↔
          ∀ item ∈ before.database.stock.rows, item.supplierPart = some supplierPart →
            item.isShippedTo company = false) := by
  intro before after succeeds contained
  have result : after.database =
      before.database.without (before.database.goneWithCompany company) :=
    database_of_deleted_company (reachable_is_sound operations) succeeds
  rw [result] at contained ⊢
  have stays := Database.stays_of_contains contained
  exact ⟨Database.counted_without rfl stays, Database.same_counted_iff rfl stays⟩

namespace SmallCatalogue

def buyer : CompanyChanges :=
  { noChanges with name := some "Buyer", currency := some "USD", isCustomer := some true }

def stockOf (holder : Option Int) : StockItem where
  pk := 0
  part := 1
  supplierPart := some 1
  quantity := 5.0
  isBuilding := false
  customer := holder

/-- Some stock is on the shelf, some is with the second company. -/
def shipped : List Operation :=
  setUp ++ [.createCompany buyer none, .addStockItem (stockOf none),
    .addStockItem (stockOf (some 2))]

def countedKeys (store : Store) : List Int := (store.database.counted 1).map (·.pk)

end SmallCatalogue

open SmallCatalogue in
/-- The second company is deleted and what was with it is counted. -/
theorem stock_of_deleted_buyer :
    let before := Store.empty.after shipped
    (Operation.deleteCompany 2).Succeeds before ∧
      countedKeys before = [1] ∧
      countedKeys ((Operation.deleteCompany 2).run before).2 = [1, 2] := by
  intro before
  have succeeds : (Operation.deleteCompany 2).Succeeds before := by rfl
  obtain ⟨after, _⟩ :=
    Store.stock_counted_after_deletion shipped 2 1 succeeds (by decide +kernel)
  refine ⟨succeeds, by decide +kernel, ?_⟩
  rw [countedKeys, after]
  decide +kernel

open SmallCatalogue in
/-- So a deletion may put stock that was shipped back on the shelf. -/
theorem shipped_stock_is_counted_again :
    ¬ ∀ (operations : List Operation) (company supplierPart : Int),
      let before := Store.empty.after operations
      let after := ((Operation.deleteCompany company).run before).2
      (Operation.deleteCompany company).Succeeds before →
      after.database.supplierParts.contains supplierPart = true →
        ∀ item, item ∈ after.database.counted supplierPart ↔
          item ∈ before.database.counted supplierPart := by
  intro same
  have alike := same shipped 2 1 (by rfl) (by decide +kernel)
  have absent : 2 ∉ countedKeys (Store.empty.after shipped) := by decide +kernel
  have counted :
      2 ∈ countedKeys ((Operation.deleteCompany 2).run (Store.empty.after shipped)).2 := by
    decide +kernel
  obtain ⟨item, member, key⟩ := List.mem_map.1 counted
  exact absent (List.mem_map.2 ⟨item, (alike item).1 member, key⟩)

end SupplyCatalog
