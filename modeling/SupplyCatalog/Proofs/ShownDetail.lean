import Mathlib.Data.List.Nodup
import SupplyCatalog.Query
import SupplyCatalog.View.SupplierPart

/-!
# Details of supplier parts

The view of a supplier part is a list of fields, each with the switch that shows it. What stands in
a field does not depend on the switches, so two views of one supplier part never say different
things under one key. The supplier part inside a price break is the view with every switch off.
-/

namespace SupplyCatalog

/-- Where no key stands twice, all fields are found. -/
theorem Json.lookup_eq_some_iff {fields : List (String × Json)}
    (once : (fields.map (·.1)).Nodup) {key : String} {value : Json} :
    lookup fields key = some value ↔ (key, value) ∈ fields := by
  induction fields with
  | nil => simp [lookup]
  | cons field rest induction =>
      have notAgain : field.1 ∉ rest.map (·.1) := (List.nodup_cons.1 once).1
      have later := induction (List.nodup_cons.1 once).2
      unfold lookup at later ⊢
      rw [List.mem_cons]
      by_cases same : field.1 = key
      · rw [List.find?_cons_of_pos (by simpa using same)]
        have notLater : (key, value) ∉ rest := fun member =>
          notAgain (same ▸ List.mem_map_of_mem member)
        simp [notLater, Prod.ext_iff, same, eq_comm]
      · rw [List.find?_cons_of_neg (by simpa using same), later]
        simp [Prod.ext_iff, Ne.symm same]

namespace View

/-! ## Fields with switches -/

/-- What a field of the view of a supplier part is shown for. -/
inductive Switch
  | always
  | part
  | supplier
  | manufacturer
  | pretty
  | stock
deriving DecidableEq

/-- Stock is shown when it has been asked for, all else as the details say. -/
def Switch.isOn (detail : SupplierPartDetail) (inStock : Option Float) : Switch → Bool
  | always => true
  | part => detail.partDetail
  | supplier => detail.supplierDetail
  | manufacturer => detail.manufacturerDetail
  | pretty => detail.pretty
  | stock => inStock.isSome

structure DetailField where
  key : String
  switch : Switch
  value : Json

section Shown

variable (isOn : Switch → Bool) (fields : List DetailField)

def switchedOn : List (String × Json) :=
  fields.flatMap fun field => shown (isOn field.switch) field.key field.value

variable {isOn fields}

theorem mem_switched_on {key : String} {value : Json} :
    (key, value) ∈ switchedOn isOn fields ↔
      ∃ field ∈ fields, field.key = key ∧ isOn field.switch = true ∧ field.value = value := by
  unfold switchedOn shown
  rw [List.mem_flatMap]
  refine exists_congr fun field => and_congr_right fun _ => ?_
  cases on : isOn field.switch with
  | true => simp [eq_comm]
  | false => simp

variable (isOn fields) in
theorem keys_switched_on :
    List.Sublist ((switchedOn isOn fields).map (·.1)) (fields.map (·.key)) := by
  induction fields with
  | nil => exact .refl _
  | cons field rest induction =>
      unfold switchedOn shown at induction ⊢
      rw [List.flatMap_cons, List.map_append, List.map_cons]
      cases on : isOn field.switch with
      | true => exact induction.cons_cons field.key
      | false => exact induction.cons field.key

end Shown

def supplierPartDetails (bundle : SupplierPartBundle) : List DetailField :=
  let row := bundle.supplierPart
  let linked := bundle.linked
  [⟨"available", .always, decimal row.available⟩,
    ⟨"availability_updated", .always, instant row.availabilityUpdated⟩,
    ⟨"description", .always, .string row.description⟩,
    ⟨"in_stock", .stock, (bundle.inStock.map Json.real).getD .null⟩,
    ⟨"link", .always, .string row.link⟩,
    ⟨"manufacturer", .always, .optionalInt (linked.map (·.manufacturer.pk))⟩,
    ⟨"manufacturer_detail", .manufacturer, linkedManufacturer linked⟩,
    ⟨"manufacturer_part", .always, .optionalInt row.manufacturerPart⟩,
    ⟨"manufacturer_part_detail", .manufacturer, linkedPart linked⟩,
    ⟨"MPN", .always, .optionalString (linked.bind (·.manufacturerPart.mpn))⟩,
    ⟨"note", .always, .string row.note⟩,
    ⟨"pk", .always, .int row.pk⟩,
    ⟨"barcode_hash", .always, .string row.barcodeHash⟩,
    ⟨"packaging", .always, .string row.packaging⟩,
    ⟨"pack_size", .always, .real row.packSize.toReal⟩,
    ⟨"part", .always, .int row.part⟩,
    ⟨"part_detail", .part, part bundle.part⟩,
    ⟨"pretty_name", .pretty, .string (row.prettyName bundle.part bundle.supplier
      (linked.map fun linked => (linked.manufacturerPart, linked.manufacturer)))⟩,
    ⟨"SKU", .always, .string row.sku⟩,
    ⟨"supplier", .always, .int row.supplier⟩,
    ⟨"supplier_detail", .supplier, companyBrief bundle.supplier⟩,
    ⟨"url", .always, .string row.url⟩,
    ⟨"updated", .always, instant row.updated⟩]

/-- The keys with what shows them, which is the same for all supplier parts. -/
def supplierPartSwitches : List (String × Switch) :=
  [("available", .always), ("availability_updated", .always), ("description", .always),
    ("in_stock", .stock), ("link", .always), ("manufacturer", .always),
    ("manufacturer_detail", .manufacturer), ("manufacturer_part", .always),
    ("manufacturer_part_detail", .manufacturer), ("MPN", .always), ("note", .always),
    ("pk", .always), ("barcode_hash", .always), ("packaging", .always), ("pack_size", .always),
    ("part", .always), ("part_detail", .part), ("pretty_name", .pretty), ("SKU", .always),
    ("supplier", .always), ("supplier_detail", .supplier), ("url", .always),
    ("updated", .always)]

section SupplierPart

variable (bundle : SupplierPartBundle) (detail : SupplierPartDetail)

theorem supplier_part_switches_eq :
    (supplierPartDetails bundle).map (fun field => (field.key, field.switch)) =
      supplierPartSwitches := rfl

theorem supplier_part_keys_once : ((supplierPartDetails bundle).map (·.key)).Nodup := by
  have keys : (supplierPartDetails bundle).map (·.key) = supplierPartSwitches.map (·.1) := rfl
  rw [keys]
  decide

theorem supplier_part_fields_eq :
    supplierPartFields bundle detail =
      switchedOn (Switch.isOn detail bundle.inStock) (supplierPartDetails bundle) := by
  have stock : shown bundle.inStock.isSome "in_stock"
      ((bundle.inStock.map Json.real).getD .null) = inStock bundle.inStock := by
    cases bundle.inStock <;> rfl
  simp only [supplierPartFields, switchedOn, supplierPartDetails, Switch.isOn, List.flatMap_cons,
    List.flatMap_nil, stock, List.append_assoc, List.cons_append, List.nil_append]
  rfl

theorem supplier_part_shows_keys_once :
    ((supplierPartFields bundle detail).map (·.1)).Nodup := by
  rw [supplier_part_fields_eq]
  exact (keys_switched_on _ _).nodup (supplier_part_keys_once bundle)

variable {bundle detail} {key : String} {value : Json}

theorem supplier_part_field_iff :
    (supplierPart bundle detail).field? key = some value ↔
      ∃ field ∈ supplierPartDetails bundle, field.key = key ∧
        field.switch.isOn detail bundle.inStock = true ∧ field.value = value := by
  rw [supplierPart, Json.field?, Json.lookup_eq_some_iff (supplier_part_shows_keys_once _ _),
    supplier_part_fields_eq, mem_switched_on]

/-- Under the key of a field stands its value, if its switch is on. -/
theorem supplier_part_field_of_mem {field : DetailField}
    (member : field ∈ supplierPartDetails bundle) :
    (supplierPart bundle detail).field? field.key = some value ↔
      field.switch.isOn detail bundle.inStock = true ∧ field.value = value := by
  rw [supplier_part_field_iff]
  constructor
  · rintro ⟨other, otherMember, same, shows⟩
    have once := supplier_part_keys_once bundle
    rwa [← List.inj_on_of_nodup_map once otherMember member same]
  · intro shows
    exact ⟨field, member, rfl, shows⟩

/-- A key is there if its switch is on. -/
theorem supplier_part_has_key_iff :
    ((supplierPart bundle detail).field? key).isSome = true ↔
      ∃ switch, (key, switch) ∈ supplierPartSwitches ∧
        switch.isOn detail bundle.inStock = true := by
  rw [Option.isSome_iff_exists, ← supplier_part_switches_eq bundle]
  simp only [supplier_part_field_iff, List.mem_map, Prod.mk.injEq]
  constructor
  · rintro ⟨_, field, member, rfl, on, rfl⟩
    exact ⟨field.switch, ⟨field, member, rfl, rfl⟩, on⟩
  · rintro ⟨_, ⟨field, member, rfl, rfl⟩, on⟩
    exact ⟨field.value, field, member, rfl, on, rfl⟩

/-- Whatever the details are, nothing else stands under a key. -/
theorem supplier_part_field_unique {other : SupplierPartDetail} {otherValue : Json}
    (there : (supplierPart bundle detail).field? key = some value)
    (again : (supplierPart bundle other).field? key = some otherValue) : value = otherValue := by
  obtain ⟨field, member, rfl, _, rfl⟩ := supplier_part_field_iff.1 there
  exact ((supplier_part_field_of_mem member).1 again).2

end SupplierPart

end View

/-! ## What a query asks for -/

/-- A detail is wanted when its switch is on, or not given while the view is not brief. -/
def SupplierPartQuery.Wants (query : SupplierPartQuery) (flag : Option Bool) : Prop :=
  flag = some true ∨ flag = none ∧ query.brief ≠ some true

namespace View

def Switch.keys : Switch → List String
  | always => ["available", "availability_updated", "description", "link", "manufacturer",
      "manufacturer_part", "MPN", "note", "pk", "barcode_hash", "packaging", "pack_size", "part",
      "SKU", "supplier", "url", "updated"]
  | part => ["part_detail"]
  | supplier => ["supplier_detail"]
  | manufacturer => ["manufacturer_detail", "manufacturer_part_detail"]
  | pretty => ["pretty_name"]
  | stock => ["in_stock"]

theorem mem_switches_iff (key : String) (switch : Switch) :
    (key, switch) ∈ supplierPartSwitches ↔ key ∈ switch.keys := by
  constructor
  · have listed : ∀ entry ∈ supplierPartSwitches, entry.1 ∈ entry.2.keys := by decide
    exact listed (key, switch)
  · have listed : ∀ key ∈ switch.keys, (key, switch) ∈ supplierPartSwitches := by
      cases switch <;> decide
    exact listed key

/-- What has to be asked for a switch to be on. -/
def Switch.IsAsked (bundle : SupplierPartBundle) (query : SupplierPartQuery) : Switch → Prop
  | always => True
  | part => query.Wants query.partDetail
  | supplier => query.Wants query.supplierDetail
  | manufacturer => query.Wants query.manufacturerDetail
  | pretty => query.pretty = some true
  | stock => ∃ quantity, bundle.inStock = some quantity

/-- The view has the keys that are asked for, and a manufacturer that is asked for is null exactly
where nothing is linked. -/
structure IsAsAsked (bundle : SupplierPartBundle) (query : SupplierPartQuery) : Prop where
  keys_once : ((supplierPartFields bundle query.detail).map (·.1)).Nodup
  has_key_iff : ∀ key, ((supplierPart bundle query.detail).field? key).isSome = true ↔
    ∃ switch : Switch, key ∈ switch.keys ∧ switch.IsAsked bundle query
  null_iff : ∀ key ∈ Switch.manufacturer.keys,
    (supplierPart bundle query.detail).field? key = some .null ↔
      query.Wants query.manufacturerDetail ∧ bundle.linked = none

/-- What both objects have under one key is the same. -/
def Agree (first second : Json) : Prop :=
  ∀ key value other, first.field? key = some value → second.field? key = some other →
    value = other

/-- The supplier part in the view of a price break is there when it is asked for, and has no key
that a switch could show. -/
structure HasBriefPart (bundle : PriceBreakBundle) (query : PriceBreakQuery) : Prop where
  shown_iff : ((priceBreak bundle query.detail).field? "part_detail").isSome = true ↔
    query.partDetail = some true
  has_key_iff : ∀ value, (priceBreak bundle query.detail).field? "part_detail" = some value →
    ∀ key, (value.field? key).isSome = true ↔ key ∈ Switch.always.keys
  no_details : ∀ value, (priceBreak bundle query.detail).field? "part_detail" = some value →
    ∀ switch ≠ Switch.always, ∀ key ∈ switch.keys, value.field? key = none

section Query

variable (bundle : SupplierPartBundle) (query : SupplierPartQuery)

theorem detail_is_wanted_iff (flag : Option Bool) :
    flag.getD (query.brief != some true) = true ↔ query.Wants flag := by
  cases flag with
  | none => simp [SupplierPartQuery.Wants]
  | some on => simp [SupplierPartQuery.Wants]

theorem query_detail_eq :
    query.detail =
      { partDetail := query.partDetail.getD (query.brief != some true)
        supplierDetail := query.supplierDetail.getD (query.brief != some true)
        manufacturerDetail := query.manufacturerDetail.getD (query.brief != some true)
        pretty := query.pretty.getD false } := by
  unfold SupplierPartQuery.detail
  cases query.brief with
  | none => rfl
  | some brief => cases brief <;> rfl

theorem switch_is_on_iff (switch : Switch) :
    switch.isOn query.detail bundle.inStock = true ↔ switch.IsAsked bundle query := by
  rw [query_detail_eq]
  cases switch with
  | always => exact iff_of_true rfl trivial
  | part => exact detail_is_wanted_iff query query.partDetail
  | supplier => exact detail_is_wanted_iff query query.supplierDetail
  | manufacturer => exact detail_is_wanted_iff query query.manufacturerDetail
  | pretty =>
      change query.pretty.getD false = true ↔ query.pretty = some true
      cases query.pretty <;> simp
  | stock => exact Option.isSome_iff_exists

theorem linked_manufacturer_eq_null_iff (linked : Option ManufacturerPartBundle) :
    linkedManufacturer linked = .null ↔ linked = none := by
  cases linked <;> simp [linkedManufacturer, companyBrief]

theorem linked_part_eq_null_iff (linked : Option ManufacturerPartBundle) :
    linkedPart linked = .null ↔ linked = none := by
  cases linked <;> simp [linkedPart, manufacturerPart]

theorem is_as_asked : IsAsAsked bundle query where
  keys_once := supplier_part_shows_keys_once bundle query.detail
  has_key_iff key := by
    rw [supplier_part_has_key_iff]
    simp only [mem_switches_iff, switch_is_on_iff]
  null_iff key member := by
    have on : Switch.manufacturer.isOn query.detail bundle.inStock = true ↔
        query.Wants query.manufacturerDetail := switch_is_on_iff bundle query .manufacturer
    simp only [Switch.keys, List.mem_cons, List.not_mem_nil, or_false] at member
    rcases member with rfl | rfl
    · let field : DetailField :=
        ⟨"manufacturer_detail", .manufacturer, linkedManufacturer bundle.linked⟩
      have there : field ∈ supplierPartDetails bundle := by simp [field, supplierPartDetails]
      rw [supplier_part_field_of_mem there, on, linked_manufacturer_eq_null_iff]
    · let field : DetailField :=
        ⟨"manufacturer_part_detail", .manufacturer, linkedPart bundle.linked⟩
      have there : field ∈ supplierPartDetails bundle := by simp [field, supplierPartDetails]
      rw [supplier_part_field_of_mem there, on, linked_part_eq_null_iff]

end Query

/-! ## Price breaks -/

section PriceBreak

variable (bundle : PriceBreakBundle)

theorem price_break_part (detail : PriceBreakDetail) :
    (priceBreak bundle detail).field? "part_detail" =
      if detail.partDetail = true then
        some (supplierPart { bundle.supplierPart with inStock := none } .brief)
      else none := by
  obtain ⟨part, supplier⟩ := detail
  cases part <;> cases supplier <;> rfl

/-- Without details and without stock, only what is always shown is on. -/
theorem switch_is_on_in_brief_iff (switch : Switch) :
    switch.isOn .brief none = true ↔ switch = .always := by
  cases switch <;> decide

theorem brief_part_has_key_iff (part : SupplierPartBundle) (key : String) :
    ((supplierPart { part with inStock := none } .brief).field? key).isSome = true ↔
      key ∈ Switch.always.keys := by
  rw [supplier_part_has_key_iff]
  simp only [switch_is_on_in_brief_iff, mem_switches_iff, exists_eq_right]

theorem always_shares_no_key {switch : Switch} (notAlways : switch ≠ .always) :
    ∀ key ∈ switch.keys, key ∉ Switch.always.keys := by
  cases switch with
  | always => exact (notAlways rfl).elim
  | _ => decide

theorem has_brief_part (query : PriceBreakQuery) : HasBriefPart bundle query where
  shown_iff := by
    rw [price_break_part]
    change (if query.partDetail.getD false = true then _ else none).isSome = true ↔ _
    cases query.partDetail with
    | none => simp
    | some on => cases on <;> simp
  has_key_iff value there key := by
    rw [price_break_part, Option.ite_none_right_eq_some] at there
    rw [← Option.some.inj there.2]
    exact brief_part_has_key_iff bundle.supplierPart key
  no_details value there switch notAlways key member := by
    rw [price_break_part, Option.ite_none_right_eq_some] at there
    rw [← Option.some.inj there.2, ← Option.not_isSome_iff_eq_none, brief_part_has_key_iff]
    exact always_shares_no_key notAlways key member

end PriceBreak

/-- Switches add and remove fields, and change nothing in those that are shown. A price break shows
its supplier part without any of them. -/
theorem switches_only_show_their_fields :
    (∀ bundle query, IsAsAsked bundle query) ∧
      (∀ (bundle : SupplierPartBundle) (first second : SupplierPartQuery),
        Agree (supplierPart bundle first.detail) (supplierPart bundle second.detail)) ∧
      ∀ bundle query, HasBriefPart bundle query := by
  refine ⟨is_as_asked, ?_, ?_⟩
  · intro bundle first second key value other
    exact supplier_part_field_unique
  · exact has_brief_part

end View

end SupplyCatalog
