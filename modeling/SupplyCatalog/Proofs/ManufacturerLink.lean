import SupplyCatalog.Proofs.RequestRule
import SupplyCatalog.Proofs.Run

/-!
# Links by manufacturer and number

A request that creates a supplier part may name a manufacturer and a number instead of a
manufacturer part. The manufacturer part that they designate is looked up and made when there is
none, so that afterwards there is exactly one. A manufacturer part that is named outright as well
has to be the one that is found. No other request for a supplier part looks at the two keys.
-/

namespace SupplyCatalog

/-! ## What bodies ask for -/

namespace Json

/-- Both keys of a link stand in the body, with something in them. -/
def givesLink (body : Json) : Bool :=
  Value.isGiven (body.field? "manufacturer") && Value.isGiven (body.field? "MPN")

/-- The manufacturer and the number that stand under the two keys. -/
def LinksTo (body : Json) (link : ManufacturerLink) : Prop :=
  ∃ manufacturer mpn, body.field? "manufacturer" = some manufacturer ∧
    body.field? "MPN" = some mpn ∧ Value.pk manufacturer = .ok link.manufacturer ∧
    Value.plainText mpn = .ok link.mpn

/-- What becomes of a reference to a manufacturer part: the body names another one, or none, or has
no key for it. -/
def Relinks (body : Json) (old new : Option Int) : Prop :=
  match body.field? "manufacturer_part" with
  | none => new = old
  | some .null => new = none
  | some value => ∃ pk, Value.pk value = .ok pk ∧ new = some pk

theorem Relinks.unique {body : Json} {old new other : Option Int} (relinks : body.Relinks old new)
    (again : body.Relinks old other) : new = other := by
  unfold Relinks at relinks again
  generalize body.field? "manufacturer_part" = value at relinks again
  cases value with
  | none => rw [relinks, again]
  | some json =>
      cases json with
      | null => rw [relinks, again]
      | _ =>
          obtain ⟨pk, read, rfl⟩ := relinks
          obtain ⟨otherPk, otherRead, rfl⟩ := again
          exact congrArg some (Except.ok.inj (read.symm.trans otherRead))

end Json

namespace Payload

theorem tells_nullable_pk (payload : Payload) :
    (payload.nullablePk "manufacturer_part").Tells fun read =>
      ∀ old, (Json.object payload.fields).Relinks old (read.getD old) := by
  unfold nullablePk nullable Json.Relinks
  change Noted.Tells _ fun (read : Option (Option Int)) => ∀ old,
    match payload.raw "manufacturer_part" with
    | none => read.getD old = old
    | some .null => read.getD old = none
    | some value => ∃ pk, Value.pk value = .ok pk ∧ read.getD old = some pk
  cases payload.raw "manufacturer_part" with
  | none => exact .pure fun _ => rfl
  | some json =>
      cases json with
      | null => exact .pure fun _ => rfl
      | _ =>
          dsimp only
          cases read : Value.pk _ with
          | error cause => exact .violated
          | ok pk => exact .pure fun _ => ⟨pk, rfl, rfl⟩

/-- A field that counts as given, and is read without a violation, has a value. -/
theorem tells_given {α : Type} {payload : Payload} {key : String} {required : Bool}
    {read : Json → Checked α} (given : Value.isGiven (payload.raw key) = true) :
    (payload.field key required read).Tells fun found =>
      ∃ json value, payload.raw key = some json ∧ read json = .ok value ∧ found = some value := by
  constructor
  intro unviolated
  have reads := value_of_unviolated unviolated
  cases raw : payload.raw key with
  | none =>
      rw [raw] at given
      cases given
  | some json =>
      rw [raw] at reads
      obtain ⟨value, accepted, found⟩ := reads
      exact ⟨json, value, rfl, accepted, found⟩

end Payload

namespace SupplierPartInput

theorem tells_relinks (payload : Payload) :
    (readChanges payload).Tells fun changes =>
      ∀ old, (Json.object payload.fields).Relinks old (changes.manufacturerPart.getD old) := by
  apply Noted.Tells.skip
  intro packSize
  apply Noted.Tells.skip
  intro part
  apply Noted.Tells.skip
  intro supplier
  apply Noted.Tells.bind payload.tells_nullable_pk
  intro manufacturerPart relinks
  apply Noted.Tells.skip
  intro sku
  apply Noted.Tells.skip
  intro description
  apply Noted.Tells.skip
  intro link
  apply Noted.Tells.skip
  intro note
  apply Noted.Tells.skip
  intro packaging
  exact .pure relinks

/-- A link is asked for when both keys are given, and only then. -/
theorem tells_link_asked (payload : Payload) :
    (readLink payload).Tells fun asked =>
      if (Json.object payload.fields).givesLink then
        ∃ link, asked = some link ∧ (Json.object payload.fields).LinksTo link
      else asked = none := by
  change Noted.Tells _ fun asked =>
    if Value.isGiven (payload.raw "manufacturer") && Value.isGiven (payload.raw "MPN") then _
    else _
  unfold readLink
  split
  · rename_i given
    simp only [Bool.and_eq_true] at given
    apply Noted.Tells.bind (Payload.tells_given given.1)
    rintro _ ⟨manufacturerJson, manufacturer, there, read, rfl⟩
    apply Noted.Tells.bind (Payload.tells_given given.2)
    rintro _ ⟨mpnJson, mpn, mpnThere, mpnRead, rfl⟩
    exact .pure ⟨⟨manufacturer, mpn⟩, rfl, manufacturerJson, mpnJson, there, mpnThere, read,
      (Value.text_of_read mpnRead).1⟩
  · exact .pure rfl

/-- What a body that creates a supplier part says of its link. -/
theorem links_of_create {body : Json} {input : SupplierPartInput}
    (parsed : parseCreate body = .ok input) :
    (∀ old, body.Relinks old (input.changes.manufacturerPart.getD old)) ∧
      if body.givesLink then
        ∃ link, input.manufacturerLink = some link ∧ body.LinksTo link
      else input.manufacturerLink = none := by
  obtain ⟨fields, rfl, unviolated, rfl⟩ := read_of_parsed parsed
  have tells : (readCreate ⟨fields, false⟩).Tells fun input =>
      (∀ old, (Json.object fields).Relinks old (input.changes.manufacturerPart.getD old)) ∧
        if (Json.object fields).givesLink then
          ∃ link, input.manufacturerLink = some link ∧ (Json.object fields).LinksTo link
        else input.manufacturerLink = none := by
    apply Noted.Tells.bind (tells_relinks _)
    intro changes relinks
    apply Noted.Tells.skip
    intro available
    apply Noted.Tells.bind (tells_link_asked _)
    intro link asked
    exact .pure ⟨relinks, asked⟩
  exact tells.told unviolated

theorem relinks_of_update {isPartial : Bool} {body : Json} {input : SupplierPartInput}
    (parsed : parseUpdate isPartial body = .ok input) (old : Option Int) :
    body.Relinks old (input.changes.manufacturerPart.getD old) := by
  obtain ⟨fields, rfl, unviolated, rfl⟩ := read_of_parsed parsed
  have tells : (readUpdate ⟨fields, isPartial⟩).Tells fun input =>
      ∀ old, (Json.object fields).Relinks old (input.changes.manufacturerPart.getD old) := by
    apply Noted.Tells.bind (tells_relinks _)
    intro changes relinks
    apply Noted.Tells.skip
    intro available
    exact .pure relinks
  exact tells.told unviolated old

end SupplierPartInput

/-! ## Finding and making -/

namespace ManufacturerLink

variable {link : ManufacturerLink} {part : Int}

/-- What designates the manufacturer part that is meant when the link is for a part. -/
def designation (link : ManufacturerLink) (part : Int) : Int × Int × Option String :=
  (part, link.manufacturer, some link.mpn)

/-- Afterwards the target is the one manufacturer part that the link designates. It is made when
there was none, and otherwise all manufacturer parts are as they were. -/
structure FindsOrMakes (link : ManufacturerLink) (part : Int)
    (before after : Table ManufacturerPart) (target : ManufacturerPart) : Prop where
  there : target ∈ after.rows
  designated : target.designation = link.designation part
  only : ∀ row ∈ after.rows, row.designation = link.designation part → row = target
  found : (∃ row ∈ before.rows, row.designation = link.designation part) → after = before
  made : (∀ row ∈ before.rows, row.designation ≠ link.designation part) →
    after = before.insert (link.made part)

variable {database : Database} {target : ManufacturerPart}

theorem finds (keys : database.HasUniqueKeys)
    (found : database.findManufacturerPart part link.manufacturer link.mpn = some target) :
    link.FindsOrMakes part database.manufacturerParts database.manufacturerParts target := by
  obtain ⟨there, samePart, sameManufacturer, sameMpn⟩ :=
    Database.find_manufacturer_part_spec found
  have member := Table.mem_of_find there
  have designated : target.designation = link.designation part := by
    simp [ManufacturerPart.designation, designation, samePart, sameManufacturer, sameMpn]
  refine ⟨member, designated, ?_, fun _ => rfl, ?_⟩
  · intro row rowMember same
    exact keys.manufacturerParts row rowMember target member (same.trans designated.symm)
  · intro missing
    exact absurd designated (missing target member)

theorem missing_of_find
    (none : database.findManufacturerPart part link.manufacturer link.mpn = none) :
    ∀ row ∈ database.manufacturerParts.rows, row.designation ≠ link.designation part := by
  intro row member same
  simp only [ManufacturerPart.designation, designation, Prod.mk.injEq] at same
  obtain ⟨samePart, sameManufacturer, sameMpn⟩ := same
  have fails := List.find?_eq_none.1 none row member
  simp [samePart, sameManufacturer, sameMpn] at fails

theorem makes (none : database.findManufacturerPart part link.manufacturer link.mpn = none) :
    link.FindsOrMakes part database.manufacturerParts
      (database.manufacturerParts.insert (link.made part))
      (database.manufacturerParts.keyed (link.made part)) := by
  have missing := missing_of_find none
  refine ⟨(Table.mem_insert _ _ _).2 (.inr rfl), rfl, ?_, ?_, fun _ => rfl⟩
  · intro row member same
    rcases (Table.mem_insert _ _ _).1 member with old | new
    · exact absurd same (missing row old)
    · exact new
  · rintro ⟨row, member, same⟩
    exact absurd same (missing row member)

end ManufacturerLink

/-! ## Manufacturer parts that are named outright -/

namespace Database

variable {database : Database} {link : ManufacturerLink} {named : Int}

/-- A supplier part that names a manufacturer part already is linked to that one or not at all. -/
theorem found_of_linked {row : SupplierPart} {after : Database}
    (names : row.manufacturerPart = some named)
    (present : database.manufacturerParts.contains named = true)
    (linked : database.linkSupplierPart row (some link) = .ok after) :
    ∃ target, database.findManufacturerPart row.part link.manufacturer link.mpn = some target ∧
      target.pk = named := by
  obtain ⟨⟨target, between⟩, meant, rest⟩ := ok_of_bind linked
  have same : target.pk = named := by
    dsimp only at rest
    split at rest
    · cases rest
    · rename_i agrees
      rw [names] at agrees
      have equal : named = target.pk := by simpa using agrees
      exact equal.symm
  rcases (yields_link_target row link).value meant with ⟨found, _⟩ | ⟨_, _, made⟩
  · exact ⟨target, found, same⟩
  · -- the new manufacturer part would have a key that no row had before
    have less := Table.lt_next_pk_of_contains present
    have new : target.pk = database.manufacturerParts.nextPk :=
      congrArg (fun pair => pair.1.pk) made
    omega

theorem found_of_drafted {input : SupplierPartInput} {now : Instant}
    {draft : Draft SupplierPartBundle} (asked : input.manufacturerLink = some link)
    (names : (input.given now).manufacturerPart = some named)
    (drafted : database.draftNewSupplierPart input now = .ok draft) :
    ∃ target, database.findManufacturerPart (input.given now).part link.manufacturer link.mpn =
        some target ∧ target.pk = named := by
  obtain ⟨_, checked, rest⟩ := ok_of_bind drafted
  have fits : (input.given now).kept.FitsIn database :=
    (database.supplier_part_violations_eq_nil_iff _).1 ((yields_check _).value checked)
  have present := (fits.link named names).contains
  obtain ⟨made, inserted, rest⟩ := ok_of_bind rest
  obtain rfl := Clauses.eq_of_insert inserted
  obtain ⟨⟨saved, between⟩, written, rest⟩ := ok_of_bind rest
  obtain ⟨after, linked, _⟩ := ok_of_bind rest
  rw [asked] at linked
  obtain ⟨same, reported⟩ := (yields_report_available _ _ _).value written
  have part : saved.part = (input.given now).part :=
    (congrArg SupplierPart.part same).trans (SupplierPart.part_reported _ _ _)
  have leads : saved.manufacturerPart = some named :=
    (congrArg SupplierPart.manufacturerPart same).trans
      ((SupplierPart.link_reported _ _ _).trans names)
  have untouched : between.manufacturerParts = database.manufacturerParts := by
    rcases reported with ⟨_, rfl⟩ | rfl <;> rfl
  have found := found_of_linked leads (untouched ▸ present) linked
  unfold findManufacturerPart at found ⊢
  rwa [untouched, part] at found

end Database

/-! ## Requests that succeed -/

/-- The supplier part that is created on request of a body is linked as the body asks: to the
manufacturer part that is meant by manufacturer and number, which then has to be the one that is
named outright, if one is; or else to what is named outright. -/
def Json.LinksNew (body : Json) (before after : Database) (row : SupplierPart) : Prop :=
  if body.givesLink then
    ∃ link target, body.LinksTo link ∧
      link.FindsOrMakes row.part before.manufacturerParts after.manufacturerParts target ∧
      row.manufacturerPart = some target.pk ∧
      ∀ named, body.Relinks none (some named) →
        target.pk = named ∧ target ∈ before.manufacturerParts.rows
  else
    after.manufacturerParts = before.manufacturerParts ∧ body.Relinks none row.manufacturerPart

namespace Store

variable {store : Store} {body : Json} {input : SupplierPartInput} {now : Instant}

/-- One supplier part is added, with the link that the request gives it. -/
theorem added_of_creates {changes : List Change} (keys : store.database.HasUniqueKeys)
    (creates : input.Creates store.database now changes) :
    let after := Change.applyAll store.database changes
    ∃ row, after.supplierParts.rows = store.database.supplierParts.rows ++ [row] ∧
      row.part = (input.given now).part ∧
      match input.manufacturerLink with
      | none => after.manufacturerParts = store.database.manufacturerParts ∧
          row.manufacturerPart = (input.given now).manufacturerPart
      | some link => ∃ target, row.manufacturerPart = some target.pk ∧
          link.FindsOrMakes (input.given now).part store.database.manufacturerParts
            after.manufacturerParts target := by
  intro after
  have part : (input.created now).part = (input.given now).part :=
    SupplierPart.part_reported _ _ _
  cases creates with
  | unlinked none =>
      refine ⟨_, rfl, part, ?_⟩
      rw [none]
      exact ⟨rfl, SupplierPart.link_reported _ _ _⟩
  | found link target given found =>
      refine ⟨_, rfl, part, ?_⟩
      rw [given]
      exact ⟨target, rfl, ManufacturerLink.finds keys found⟩
  | made link given none =>
      refine ⟨_, rfl, part, ?_⟩
      rw [given]
      exact ⟨store.database.manufacturerParts.keyed (link.made (input.given now).part), rfl,
        ManufacturerLink.makes none⟩

/-- A manufacturer part that is named outright is the one that the link means, and was there. -/
theorem target_is_named {link : ManufacturerLink} {named : Int} {target : ManufacturerPart}
    {after : Table ManufacturerPart} (sound : store.database.IsSound)
    (given : input.manufacturerLink = some link)
    (names : (input.given now).manufacturerPart = some named)
    (succeeds : (Operation.createSupplierPart input now).Succeeds store)
    (finds : link.FindsOrMakes (input.given now).part store.database.manufacturerParts after
      target) :
    target.pk = named ∧ target ∈ store.database.manufacturerParts.rows := by
  obtain ⟨answer, written⟩ := Operation.answered_of_unread succeeds
  obtain ⟨draft, drafted, _⟩ := drafted_of_written written
  obtain ⟨found, isFound, same⟩ := Database.found_of_drafted given names drafted
  have before := ManufacturerLink.finds sound.keys isFound
  have unchanged := finds.found ⟨found, before.there, before.designated⟩
  obtain rfl : found = target :=
    finds.only found (unchanged ▸ before.there) before.designated
  exact ⟨same, before.there⟩

theorem created_is_linked (sound : store.database.IsSound)
    (parsed : SupplierPartInput.parseCreate body = .ok input)
    (succeeds : (Operation.createSupplierPart input now).Succeeds store) :
    let after := ((Operation.createSupplierPart input now).run store).2.database
    ∃ row, after.supplierParts.rows = store.database.supplierParts.rows ++ [row] ∧
      body.LinksNew store.database after row := by
  intro after
  obtain ⟨relinks, asked⟩ := SupplierPartInput.links_of_create parsed
  obtain ⟨changes, makes, _, result⟩ := changes_of_success sound succeeds
  cases makes with
  | createSupplierPart creates =>
      obtain ⟨row, added, part, linked⟩ := added_of_creates sound.keys creates
      have after_eq : after = Change.applyAll store.database changes := result
      rw [← after_eq] at added linked
      refine ⟨row, added, ?_⟩
      unfold Json.LinksNew
      rw [part]
      split at asked
      · rename_i gives
        obtain ⟨link, given, means⟩ := asked
        rw [given] at linked
        obtain ⟨target, leads, finds⟩ := linked
        rw [if_pos gives]
        refine ⟨link, target, means, finds, leads, ?_⟩
        intro named names
        have outright : (input.given now).manufacturerPart = some named :=
          (relinks none).unique names
        exact target_is_named sound given outright succeeds finds
      · rename_i lacks
        rw [asked] at linked
        rw [if_neg lacks]
        exact ⟨linked.1, linked.2 ▸ relinks none⟩

theorem updated_is_linked {isPartial : Bool} {pk : Int} (sound : store.database.IsSound)
    (parsed : SupplierPartInput.parseUpdate isPartial body = .ok input)
    (succeeds : (Operation.updateSupplierPart pk input now).Succeeds store) :
    let after := ((Operation.updateSupplierPart pk input now).run store).2.database
    after.manufacturerParts = store.database.manufacturerParts ∧
      ∃ old new, store.database.supplierParts.find? pk = some old ∧
        after.supplierParts.find? pk = some new ∧
        body.Relinks old.manufacturerPart new.manufacturerPart := by
  intro after
  obtain ⟨changes, makes, allowed, result⟩ := changes_of_success sound succeeds
  cases makes with
  | @updateSupplierPart _ row found _ _ =>
      have after_eq : after = _ := result
      have written := Write.find_result allowed.1.1
      have key : (row.changed input now).pk = pk :=
        (row.pk_changed input now).trans (Table.pk_of_find found)
      have relinks := SupplierPartInput.relinks_of_update parsed row.manufacturerPart
      have link : (row.changed input now).manufacturerPart =
          input.changes.manufacturerPart.getD row.manufacturerPart :=
        SupplierPart.link_reported _ _ _
      rw [after_eq]
      refine ⟨rfl, row, row.changed input now, found, key ▸ written, ?_⟩
      rw [link]
      exact relinks

/-- In every run a supplier part is linked as the body of the request asks. One that is created by
manufacturer and number leads to the one manufacturer part that they designate, which is made if
there was none; no other request adds or looks up manufacturer parts. -/
theorem manufacturer_links_in_every_run (operations : List Operation) :
    let store := empty.after operations
    (∀ body input now, SupplierPartInput.parseCreate body = .ok input →
      (Operation.createSupplierPart input now).Succeeds store →
        let after := ((Operation.createSupplierPart input now).run store).2.database
        ∃ row, after.supplierParts.rows = store.database.supplierParts.rows ++ [row] ∧
          body.LinksNew store.database after row) ∧
    ∀ isPartial body input pk now, SupplierPartInput.parseUpdate isPartial body = .ok input →
      (Operation.updateSupplierPart pk input now).Succeeds store →
        let after := ((Operation.updateSupplierPart pk input now).run store).2.database
        after.manufacturerParts = store.database.manufacturerParts ∧
          ∃ old new, store.database.supplierParts.find? pk = some old ∧
            after.supplierParts.find? pk = some new ∧
            body.Relinks old.manufacturerPart new.manufacturerPart := by
  have sound := reachable_is_sound operations
  constructor
  · intro body input now parsed succeeds
    exact created_is_linked sound parsed succeeds
  · intro isPartial body input pk now parsed succeeds
    exact updated_is_linked sound parsed succeeds

end Store

namespace SmallCatalogue

def numberedBody : Json :=
  .object [("part", .int 1), ("supplier", .int 1), ("SKU", .string "S-2"),
    ("manufacturer", .int 1), ("MPN", .string " B-2 ")]

def numberedPart : SupplierPartInput where
  changes := ⟨some 1, some 1, none, some "S-2", none, none, none, none, none⟩
  available := none
  manufacturerLink := some ⟨1, "B-2"⟩

def unlinkingBody : Json :=
  .object [("manufacturer_part", .null), ("manufacturer", .int 1), ("MPN", .string "B-3")]

def unlinkedPart : SupplierPartInput where
  changes := ⟨none, none, some none, none, none, none, none, none, none⟩
  available := none
  manufacturerLink := none

end SmallCatalogue

open SmallCatalogue in
theorem new_number_is_made :
    let store := Store.empty.after setUp
    let create := Operation.createSupplierPart numberedPart ⟨0, 0⟩
    let update := Operation.updateSupplierPart 1 unlinkedPart ⟨0, 0⟩
    (numberedBody.givesLink = true ∧ create.Succeeds store ∧
        ∃ row, numberedBody.LinksNew store.database (create.run store).2.database row) ∧
      update.Succeeds store ∧
        (update.run store).2.database.manufacturerParts = store.database.manufacturerParts ∧
        ∃ row, (update.run store).2.database.supplierParts.find? 1 = some row ∧
          row.manufacturerPart = none := by
  intro store create update
  obtain ⟨created, updated⟩ := Store.manufacturer_links_in_every_run setUp
  have first : create.Succeeds store := by rfl
  have second : update.Succeeds store := by rfl
  obtain ⟨new, _, links⟩ := created numberedBody numberedPart ⟨0, 0⟩ (by rfl) first
  obtain ⟨unchanged, _, row, _, found, relinks⟩ :=
    updated true unlinkingBody unlinkedPart 1 ⟨0, 0⟩ (by rfl) second
  have unlinked : row.manufacturerPart = none := relinks
  exact ⟨⟨by rfl, first, new, links⟩, second, unchanged, row, found, unlinked⟩

end SupplyCatalog
