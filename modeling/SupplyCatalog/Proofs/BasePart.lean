import SupplyCatalog.Proofs.Run

/-!
# Links between supplier parts and manufacturer parts

A supplier part is linked to a manufacturer part of its own base part. That is checked wherever a
supplier part is written, but not where a manufacturer part is: an update that gives another part to
a manufacturer part takes it away from under the supplier parts that are linked to it. Nothing else
does.
-/

namespace SupplyCatalog

/-- What a supplier part is linked to is there and designates the part that it supplies. -/
def Database.HasSameBaseParts (database : Database) : Prop :=
  ∀ row ∈ database.supplierParts.rows, ∀ pk ∈ row.manufacturerPart,
    database.Designates pk row.part

/-- The change gives a manufacturer part another part than that of a supplier part linked to it. -/
def Change.MovesLinked (database : Database) : Change → Prop
  | writeManufacturerPart (.set row) =>
      ∃ supplied ∈ database.supplierParts.rows,
        supplied.manufacturerPart = some row.pk ∧ supplied.part ≠ row.part
  | _ => False

/-- The operation succeeds in giving another part to a manufacturer part to which supplier parts are
linked. -/
def Operation.MovesLinked (store : Store) : Operation → Prop
  | updateManufacturerPart pk changes =>
      (updateManufacturerPart pk changes).Succeeds store ∧
        ∃ row, store.database.manufacturerParts.find? pk = some row ∧
          (changes.applyTo row).part ≠ row.part ∧
          ∃ supplied ∈ store.database.supplierParts.rows, supplied.manufacturerPart = some pk
  | _ => False

namespace Database

variable {before : Database}

theorem Designates.mono {after : Database} {pk part : Int} (designates : before.Designates pk part)
    (same : after.manufacturerParts.find? pk = before.manufacturerParts.find? pk) :
    after.Designates pk part := by
  unfold Designates
  rw [same]
  exact designates

/-! ## Removals -/

theorem HasSameBaseParts.without_manufacturer_parts (same : before.HasSameBaseParts)
    (isGone : ManufacturerPart → Bool) :
    (before.removeManufacturerParts isGone).HasSameBaseParts := by
  intro row member pk linked
  obtain ⟨old, oldMember, rfl⟩ := (mem_unlinked isGone row).1 member
  obtain ⟨link, unlinked, stays⟩ := old.unlink_eq _
  rw [unlinked] at linked ⊢
  obtain ⟨linkedBefore, notGone⟩ := stays pk linked
  obtain ⟨target, found, part⟩ := same old oldMember pk linkedBefore
  exact ⟨target, Table.find_left _ isGone found notGone, part⟩

theorem HasSameBaseParts.without_supplier_parts (same : before.HasSameBaseParts)
    (isGone : SupplierPart → Bool) : (before.removeSupplierParts isGone).HasSameBaseParts := by
  intro row member pk linked
  exact same row ((Table.mem_left _ isGone row).1 member).1 pk linked

/-! ## Changes -/

theorem HasSameBaseParts.apply {change : Change} (same : before.HasSameBaseParts)
    (allowed : change.IsAllowed before) (spares : ¬ change.MovesLinked before) :
    (change.apply before).HasSameBaseParts := by
  cases change with
  | addPart row => exact same
  | addStockItem item => exact same
  | writeCompany write => exact same
  | writeManufacturerPart write =>
      rcases allowed with ⟨place, fits⟩
      intro row member pk linked
      have designates := same row member pk linked
      by_cases written : pk = Keyed.pk (write.result before.manufacturerParts)
      · refine ⟨write.result before.manufacturerParts, ?_, ?_⟩
        · rw [written]
          exact Write.find_result place
        · cases write with
          | add new =>
              -- nothing is linked to a key that has not been given out
              have less := Table.lt_next_pk_of_contains designates.contains
              simp only [Write.result, Table.pk_keyed] at written
              omega
          | set new =>
              have linkedToNew : row.manufacturerPart = some new.pk := by
                rw [Option.mem_def.1 linked, written]
                rfl
              by_contra different
              exact spares ⟨row, member, linkedToNew, fun equal => different equal.symm⟩
      · exact designates.mono (Write.find_other place written)
  | writeParameter write => exact same
  | writeSupplierPart write =>
      rcases allowed with ⟨place, fits⟩
      exact Write.forall_apply place same fits.link
  | writePriceBreak write => exact same
  | addAttachment row =>
      cases kind : row.owner.kind <;> simp only [Change.apply, kind, setAttachments] <;> exact same
  | removeCompany pk =>
      have left := same.without_manufacturer_parts (·.manufacturer == pk)
      intro row member
      exact left row (not_supplied_by_gone member).1
  | removeManufacturerPart pk => exact same.without_manufacturer_parts _
  | removeParameter pk => exact same
  | removeSupplierPart pk => exact same.without_supplier_parts _
  | removePriceBreak pk => exact same
  | removeAttachment kind pk => cases kind <;> exact same

/-- The other way round: a link to what is moved no longer leads to its own part. -/
theorem not_same_base_parts_of_moved {change : Change} (allowed : change.IsAllowed before)
    (moves : change.MovesLinked before) : ¬ (change.apply before).HasSameBaseParts := by
  intro same
  cases change with
  | writeManufacturerPart write =>
      cases write with
      | add new => exact moves
      | set new =>
          rcases moves with ⟨supplied, member, linked, different⟩
          obtain ⟨target, found, part⟩ := same supplied member new.pk linked
          have written := Write.find_result allowed.1
          rw [show (Change.apply before (.writeManufacturerPart (.set new))).manufacturerParts.find?
            new.pk = some new from written] at found
          cases found
          exact different part.symm
  | _ => exact moves

end Database

/-! ## Operations and runs -/

namespace Operation

variable {store : Store} {operation : Operation}

/-- For an update of a manufacturer part, to move what is linked is to change its part while
something is linked to it. -/
theorem moves_linked_iff {row : ManufacturerPart} {pk : Int} {changes : ManufacturerPartChanges}
    (same : store.database.HasSameBaseParts)
    (found : store.database.manufacturerParts.find? pk = some row)
    (succeeds : (updateManufacturerPart pk changes).Succeeds store) :
    (Change.writeManufacturerPart (.set (changes.applyTo row))).MovesLinked store.database ↔
      (updateManufacturerPart pk changes).MovesLinked store := by
  have key : row.pk = pk := Table.pk_of_find found
  have ownPart (supplied : SupplierPart) (member : supplied ∈ store.database.supplierParts.rows)
      (linked : supplied.manufacturerPart = some pk) : row.part = supplied.part := by
    obtain ⟨target, there, part⟩ := same supplied member pk linked
    rw [found] at there
    cases there
    exact part
  constructor
  · intro holds
    rcases holds with ⟨supplied, member, linked, different⟩
    have linkedToPk : supplied.manufacturerPart = some pk := key ▸ linked
    refine ⟨succeeds, row, found, ?_, supplied, member, linkedToPk⟩
    rw [ownPart supplied member linkedToPk]
    exact fun equal => different equal.symm
  · intro holds
    rcases holds with ⟨_, other, foundAgain, different, supplied, member, linked⟩
    rw [found] at foundAgain
    cases foundAgain
    refine ⟨supplied, member, key ▸ linked, ?_⟩
    rw [← ownPart supplied member linked]
    exact fun equal => different equal.symm

/-- An operation on a database in which all links are right leaves them right exactly when it does
not move what supplier parts are linked to. -/
theorem same_base_parts_step (store : Store) (operation : Operation)
    (sound : store.database.IsSound) (same : store.database.HasSameBaseParts) :
    (operation.run store).2.database.HasSameBaseParts ↔ ¬ operation.MovesLinked store := by
  by_cases succeeds : operation.Succeeds store
  · obtain ⟨changes, makes, allowed, result⟩ := Store.changes_of_success sound succeeds
    rw [result]
    cases makes with
    | updateManufacturerPart found changes =>
        rw [← moves_linked_iff same found succeeds]
        constructor
        · intro after moves
          exact Database.not_same_base_parts_of_moved allowed.1 moves after
        · exact same.apply allowed.1
    | createSupplierPart creates =>
        refine iff_of_true ?_ id
        cases creates with
        | unlinked none => exact same.apply allowed.1 id
        | found link target given found => exact same.apply allowed.1 id
        | made link given none => exact (same.apply allowed.1 id).apply allowed.2.1 id
    | _ => exact iff_of_true (same.apply allowed.1 id) id
  · rw [Store.database_of_failure sound succeeds]
    refine iff_of_true same ?_
    intro moves
    cases operation with
    | updateManufacturerPart pk changes => exact succeeds moves.1
    | _ => exact moves

end Operation

theorem Database.empty_has_same_base_parts : Database.empty.HasSameBaseParts := by
  intro row member
  exact absurd member (Table.mem_empty row).1

/-- Links are right all through a run exactly when no operation of the run gives another part to a
manufacturer part to which supplier parts are linked. -/
theorem same_base_parts_throughout_iff (operations : List Operation) :
    (∀ before, before <+: operations → (Store.empty.after before).database.HasSameBaseParts) ↔
      ∀ before operation, before ++ [operation] <+: operations →
        ¬ operation.MovesLinked (Store.empty.after before) :=
  Store.holds_throughout_iff Database.empty_has_same_base_parts Operation.same_base_parts_step
    operations

def SmallCatalogue.moved : Store :=
  Store.empty.after (setUp ++ [.updateManufacturerPart 1 ⟨some 2, none, none, none, none⟩])

/-- So some run leaves a supplier part linked to a manufacturer part of another part. -/
theorem linked_to_other_part :
    ¬ ∀ operations : List Operation, (Store.empty.after operations).database.HasSameBaseParts := by
  intro always
  have same : SmallCatalogue.moved.database.HasSameBaseParts := always _
  have supplied : (1, some 1) ∈ SmallCatalogue.moved.database.supplierParts.rows.map
      fun row => (row.part, row.manufacturerPart) := by decide
  have made : (SmallCatalogue.moved.database.manufacturerParts.find? 1).map (·.part) = some 2 := by
    decide
  obtain ⟨row, member, values⟩ := List.mem_map.1 supplied
  obtain ⟨part, link⟩ := Prod.mk.inj values
  obtain ⟨target, found, designated⟩ := same row member 1 link
  rw [found] at made
  have second : target.part = 2 := Option.some.inj made
  omega

end SupplyCatalog
