import SupplyCatalog.Proofs.ReportedQuantity
import SupplyCatalog.Proofs.RowOrigin
import SupplyCatalog.Proofs.ServiceRun
import SupplyCatalog.Proofs.Success

/-!
# Availability of supplier parts

The available quantity of a supplier part and the time of its report move together, and only with a
request for that very supplier part whose body has a quantity. Other fields that are changed, links
that are set or emptied and requests that fail leave both as they are.
-/

namespace SupplyCatalog

/-- The available quantity of a supplier part, and when it was reported. -/
structure Availability where
  quantity : Decimal
  reportedAt : Option Instant

def SupplierPart.availability (row : SupplierPart) : Availability :=
  ⟨row.available, row.availabilityUpdated⟩

namespace Availability

def unreported : Availability := ⟨Decimal.zero, none⟩

/-- What becomes of an availability when a quantity is reported, or none is. -/
def next (before : Availability) (quantity : Option Decimal) (now : Instant) : Availability :=
  match quantity with
  | none => before
  | some quantity => ⟨quantity.normalize, some now⟩

/-- What a body makes of an availability: without the key it stays, and with it, it is the number
under the key as of the time. -/
def Moves (body : Json) (now : Instant) (before after : Availability) : Prop :=
  match body.field? "available" with
  | none => after = before
  | some value => ∃ number, Value.plainDecimal value = .ok number ∧
      after.quantity.toRat = number.toRat ∧ after.reportedAt = some now

/-- There is never less than nothing, and without a report there is nothing. -/
structure IsSound (availability : Availability) : Prop where
  nonnegative : 0 ≤ availability.quantity.toRat
  nothing : availability.reportedAt = none → availability.quantity.toRat = 0

variable {body : Json} {quantity : Option Decimal} (reports : body.Reports quantity)

include reports

theorem moves_next (before : Availability) (now : Instant) :
    Moves body now before (before.next quantity now) := by
  unfold Moves
  unfold Json.Reports at reports
  cases given : body.field? "available" with
  | none =>
      rw [given] at reports
      dsimp only at reports ⊢
      rw [reports]
      rfl
  | some value =>
      rw [given] at reports
      obtain ⟨number, read, _, rfl⟩ := reports
      exact ⟨number, read, number.to_rat_normalize, rfl⟩

theorem IsSound.next {before : Availability} (sound : before.IsSound) (now : Instant) :
    (before.next quantity now).IsSound := by
  unfold Json.Reports at reports
  cases given : body.field? "available" with
  | none =>
      rw [given] at reports
      dsimp only at reports
      rw [reports]
      exact sound
  | some value =>
      rw [given] at reports
      obtain ⟨number, _, least, rfl⟩ := reports
      refine ⟨?_, nofun⟩
      change 0 ≤ number.normalize.toRat
      rw [number.to_rat_normalize]
      exact least

end Availability

theorem Availability.unreported_is_sound : unreported.IsSound := by
  have zero : Decimal.zero.toRat = 0 := by simp [Decimal.toRat, Decimal.zero, Decimal.coefficient]
  exact ⟨zero.ge, fun _ => zero⟩

/-! ## Rows -/

namespace SupplierPart

theorem availability_changed {row : SupplierPart} (short : row.kept = row)
    (input : SupplierPartInput) (now : Instant) :
    (row.changed input now).availability = row.availability.next input.available now := by
  have normal : row.available.normalize = row.available := congrArg SupplierPart.available short
  unfold changed availability Availability.next
  cases input.available with
  | none => simp [reported, kept, SupplierPartChanges.applyTo, normal]
  | some quantity => rfl

theorem availability_created (input : SupplierPartInput) (now : Instant) :
    (input.created now).availability = Availability.unreported.next input.available now := by
  unfold SupplierPartInput.created availability Availability.next
  cases input.available with
  | none => rfl
  | some quantity => rfl

end SupplierPart

/-! ## Operations -/

namespace Operation

/-- The supplier parts that an operation leaves: those that were there, but for their links, and the
one that it writes. -/
inductive LeavesSupplierPart (store : Store) : Operation → SupplierPart → Prop
  | kept {operation : Operation} {old row : SupplierPart}
      (member : old ∈ store.database.supplierParts.rows) (link : Option Int)
      (same : row = { old with manufacturerPart := link })
      (unwritten : ∀ input now, operation ≠ .updateSupplierPart old.pk input now) :
      LeavesSupplierPart store operation row
  | changed {pk : Int} {old : SupplierPart}
      (found : store.database.supplierParts.find? pk = some old) (input : SupplierPartInput)
      (now : Instant) :
      LeavesSupplierPart store (.updateSupplierPart pk input now) (old.changed input now)
  | created (input : SupplierPartInput) (now : Instant) (link : Option Int) :
      LeavesSupplierPart store (.createSupplierPart input now)
        (store.database.supplierParts.keyed
          { input.created now with manufacturerPart := link })

variable {store : Store} {operation : Operation} {changes : List Change}

theorem leaves_supplier_part (makes : operation.Makes store changes)
    (allowed : Change.AreAllowed store.database changes) {row : SupplierPart}
    (member : row ∈ (Change.applyAll store.database changes).supplierParts.rows) :
    operation.LeavesSupplierPart store row := by
  have unwritten {change : Change} (only : changes = [change])
      (other : ∀ write, change ≠ .writeSupplierPart write) :
      ∃ old ∈ store.database.supplierParts.rows, ∃ link,
        row = { old with manufacturerPart := link } := by
    subst only
    exact Change.supplier_part_of_unwritten other member
  cases makes with
  | @createSupplierPart input now _ creates =>
      have inserted (link : Option Int) (among : row ∈ (store.database.supplierParts.insert
          { input.created now with manufacturerPart := link }).rows) :
          (createSupplierPart input now).LeavesSupplierPart store row := by
        rcases (Table.mem_insert _ _ _).1 among with old | rfl
        · exact .kept old row.manufacturerPart rfl (by intro _ _ same; cases same)
        · exact .created input now link
      cases creates with
      | unlinked none => exact inserted (input.created now).manufacturerPart member
      | found link target given found => exact inserted (some target.pk) member
      | made link given none => exact inserted _ member
  | @updateSupplierPart pk old found input now =>
      rcases (Write.mem_apply allowed.1.1 row).1 member with ⟨before, different⟩ | rfl
      · have key : old.pk = pk := Table.pk_of_find found
        refine .kept before row.manufacturerPart rfl ?_
        intro _ _ same
        cases same
        exact different (key.symm.trans (old.pk_changed input now).symm)
      · exact .changed found input now
  | _ =>
      obtain ⟨old, before, link, same⟩ := unwritten rfl (by intro _ same; cases same)
      exact .kept before link same (by intro _ _ same; cases same)

/-- A supplier part that is there after an operation was left by it, or the operation failed. -/
theorem supplier_part_after (sound : store.database.IsSound) (operation : Operation)
    {row : SupplierPart} (member : row ∈ (operation.run store).2.database.supplierParts.rows) :
    operation.LeavesSupplierPart store row ∧ operation.Succeeds store ∨
      row ∈ store.database.supplierParts.rows ∧ ¬ operation.Succeeds store := by
  by_cases succeeds : operation.Succeeds store
  · obtain ⟨changes, makes, allowed, result⟩ := Store.changes_of_success sound succeeds
    rw [result] at member
    exact .inl ⟨leaves_supplier_part makes allowed member, succeeds⟩
  · rw [Store.database_of_failure sound succeeds] at member
    exact .inr ⟨member, succeeds⟩

end Operation

/-! ## Requests -/

namespace Service

open Http

variable {service : Service}

inductive SetsAvailability (service : Service) : Event → SupplierPart → Prop
  | kept {event : Event} {old row : SupplierPart}
      (member : old ∈ service.store.database.supplierParts.rows) (key : old.pk = row.pk)
      (same : row.availability = old.availability)
      (unchanged : ∀ around request, event = .request around request → ∀ isPartial body,
        ¬ service.Achieves around request (.update .supplierParts row.pk isPartial) body) :
      SetsAvailability service event row
  | changed {around : Surroundings} {request : Request} {isPartial : Bool} {body : Json}
      {old row : SupplierPart}
      (achieves :
        service.Achieves around request (.update .supplierParts row.pk isPartial) body)
      (found : service.store.database.supplierParts.find? row.pk = some old)
      {quantity : Option Decimal} (reports : body.Reports quantity)
      (result : row.availability = old.availability.next quantity around.now) :
      SetsAvailability service (.request around request) row
  | created {around : Surroundings} {request : Request} {body : Json} {row : SupplierPart}
      (achieves : service.Achieves around request (.create .supplierParts) body)
      (key : row.pk = service.store.database.supplierParts.nextPk)
      {quantity : Option Decimal} (reports : body.Reports quantity)
      (result : row.availability = Availability.unreported.next quantity around.now) :
      SetsAvailability service (.request around request) row

/-- A request that carries out an operation with success achieves what it asks for. -/
theorem asks_of_update {around : Surroundings} {request : Request} {pk : Int}
    {input : SupplierPartInput} {now : Instant}
    (asks : service.AsksFor around request (.updateSupplierPart pk input now))
    (success : isSuccess (service.handle around request).1.status = true) :
    ∃ isPartial body,
      service.Achieves around request (.update .supplierParts pk isPartial) body := by
  obtain ⟨action, asked, asks⟩ := asks
  cases asks with
  | updateSupplierPart read given => exact ⟨_, _, asked, read, success⟩

theorem asks_of_create {around : Surroundings} {request : Request} {input : SupplierPartInput}
    {now : Instant} (asks : service.AsksFor around request (.createSupplierPart input now))
    (success : isSuccess (service.handle around request).1.status = true) :
    ∃ body, service.Achieves around request (.create .supplierParts) body ∧
      body.Reports input.available ∧ now = around.now := by
  obtain ⟨action, asked, asks⟩ := asks
  cases asks with
  | createSupplierPart read given =>
      exact ⟨_, ⟨asked, read, success⟩, SupplierPartInput.reports_of_create given, rfl⟩

theorem sets_of_kept {event : Event} {old row : SupplierPart}
    (member : old ∈ service.store.database.supplierParts.rows) (link : Option Int)
    (same : row = { old with manufacturerPart := link })
    (unchanged : ∀ around request, event = .request around request → ∀ isPartial body,
      ¬ service.Achieves around request (.update .supplierParts row.pk isPartial) body) :
    service.SetsAvailability event row := by
  subst same
  exact .kept member rfl rfl unchanged

section Events

variable (sound : service.IsSound)

include sound

/-- An update of the supplier part that succeeds sets its availability. -/
theorem sets_of_update {around : Surroundings} {request : Request} {isPartial : Bool}
    {body : Json} {row : SupplierPart}
    (achieves : service.Achieves around request (.update .supplierParts row.pk isPartial) body)
    (member : row ∈ (service.handle around request).2.store.database.supplierParts.rows) :
    service.SetsAvailability (.request around request) row := by
  obtain ⟨input, given, ran⟩ := achieves.update_supplier_part
  have written : row ∈ ((Operation.updateSupplierPart row.pk input around.now).run
      service.store).2.database.supplierParts.rows := by
    rw [ran]
    exact member
  rcases Operation.supplier_part_after sound.database _ written with ⟨leaves, _⟩ | ⟨_, fails⟩
  · cases leaves with
    | kept before link same unwritten =>
        subst same
        exact absurd rfl (unwritten input around.now)
    | @changed _ old found input now =>
        have before := Table.mem_of_find found
        have short := sound.database.decimals.supplierParts old before
        exact .changed achieves found (SupplierPartInput.reports_of_update given)
          (SupplierPart.availability_changed short input around.now)
  · exact absurd (congrArg Prod.fst ran) fails

theorem sets_of_carried_out {around : Surroundings} {request : Request} {operation : Operation}
    {row : SupplierPart} (asks : service.AsksFor around request operation)
    (tells : (service.handle around request).1.Tells (operation.run service.store).1)
    (unchanged : ∀ moment other, Event.request around request = .request moment other →
      ∀ isPartial body,
        ¬ service.Achieves moment other (.update .supplierParts row.pk isPartial) body)
    (member : row ∈ (operation.run service.store).2.database.supplierParts.rows) :
    service.SetsAvailability (.request around request) row := by
  rcases Operation.supplier_part_after sound.database operation member with
    ⟨leaves, succeeds⟩ | ⟨before, _⟩
  · have success := success_of_tells tells succeeds
    cases leaves with
    | kept before link same _ => exact sets_of_kept before link same unchanged
    | @changed pk old found input now =>
        obtain ⟨isPartial, body, achieves⟩ := asks_of_update asks success
        have key : pk = (old.changed input now).pk :=
          (Table.pk_of_find found).symm.trans (old.pk_changed input now).symm
        rw [key] at achieves
        exact absurd achieves (unchanged around request rfl isPartial body)
    | created input now link =>
        obtain ⟨body, achieves, reports, rfl⟩ := asks_of_create asks success
        exact .created achieves rfl reports (SupplierPart.availability_created input around.now)
  · exact .kept before rfl rfl unchanged

theorem sets_availability (event : Event) {row : SupplierPart}
    (member : row ∈ (service.step event).store.database.supplierParts.rows) :
    service.SetsAvailability event row := by
  cases event with
  | seedPart new =>
      rcases Operation.supplier_part_after sound.database (.addPart new) member with
        ⟨leaves, _⟩ | ⟨before, _⟩
      · cases leaves with
        | kept before link same _ => exact sets_of_kept before link same nofun
      · exact .kept before rfl rfl nofun
  | seedStockItem item =>
      rcases Operation.supplier_part_after sound.database (.addStockItem item) member with
        ⟨leaves, _⟩ | ⟨before, _⟩
      · cases leaves with
        | kept before link same _ => exact sets_of_kept before link same nofun
      · exact .kept before rfl rfl nofun
  | request around request =>
      by_cases updated : ∃ isPartial body,
          service.Achieves around request (.update .supplierParts row.pk isPartial) body
      · obtain ⟨isPartial, body, achieves⟩ := updated
        exact sets_of_update sound achieves member
      · have unchanged : ∀ moment other, Event.request around request = .request moment other →
            ∀ isPartial body,
              ¬ service.Achieves moment other (.update .supplierParts row.pk isPartial) body := by
          intro _ _ same isPartial body achieves
          cases same
          exact updated ⟨isPartial, body, achieves⟩
        have handles := handle_handles sound.database.references around request
        change row ∈ (service.handle around request).2.store.database.supplierParts.rows at member
        generalize handled : service.handle around request = outcome at handles member
        cases handles with
        | answered response expected => exact .kept member rfl rfl unchanged
        | carriedOut asks response tells =>
            apply sets_of_carried_out sound asks _ unchanged member
            rw [handled]
            exact tells

end Events

/-! ## Runs -/

/-- A body is read in one way. -/
theorem Achieves.body_unique {around : Surroundings} {request : Request}
    {action otherAction : Action} {body other : Json}
    (achieves : service.Achieves around request action body)
    (also : service.Achieves around request otherAction other) : body = other :=
  Except.ok.inj (achieves.read.symm.trans also.read)

namespace SetsAvailability

variable {event : Event} {row : SupplierPart} (sets : service.SetsAvailability event row)

include sets

theorem is_sound (before : ∀ old ∈ service.store.database.supplierParts.rows,
    old.availability.IsSound) : row.availability.IsSound := by
  cases sets with
  | kept member _ same _ =>
      rw [same]
      exact before _ member
  | changed _ found reports result =>
      rw [result]
      have member := Table.mem_of_find found
      exact (before _ member).next reports _
  | created _ _ reports result =>
      rw [result]
      exact Availability.unreported_is_sound.next reports _

/-- A supplier part that was there before is not a new one. -/
theorem of_old {before : SupplierPart}
    (found : service.store.database.supplierParts.find? row.pk = some before) :
    (∀ around request, event = .request around request → ∀ isPartial body,
        service.Achieves around request (.update .supplierParts row.pk isPartial) body →
          Availability.Moves body around.now before.availability row.availability) ∧
      ((∀ around request, event = .request around request → ∀ isPartial body,
          ¬ service.Achieves around request (.update .supplierParts row.pk isPartial) body) →
        row.availability = before.availability) := by
  cases sets with
  | @kept _ old _ member key same unchanged =>
      have itself := ((Table.find_eq_some_iff _ _ _).2 ⟨member, key⟩).symm.trans found
      rw [Option.some_inj.1 itself] at same
      refine ⟨?_, fun _ => same⟩
      intro around request asked isPartial body achieves
      exact absurd achieves (unchanged around request asked isPartial body)
  | @changed around request isPartial body old _ achieves was quantity reports result =>
      rw [Option.some_inj.1 (was.symm.trans found)] at result
      constructor
      · intro _ _ asked _ other also
        cases asked
        rw [← achieves.body_unique also, result]
        exact Availability.moves_next reports _ _
      · intro unchanged
        exact absurd achieves (unchanged around request rfl isPartial body)
  | created _ key _ _ =>
      obtain ⟨member, same⟩ := (Table.find_eq_some_iff _ _ _).1 found
      have less := Table.pk_lt_next_pk _ member
      rw [same, key] at less
      exact absurd less (lt_irrefl _)

/-- A supplier part under a key that was not given out before is a new one. -/
theorem of_new {around : Surroundings} {request : Request} {body : Json}
    (asked : event = .request around request)
    (achieves : service.Achieves around request (.create .supplierParts) body)
    (new : row.pk = service.store.database.supplierParts.nextPk) :
    Availability.Moves body around.now .unreported row.availability := by
  have absent {old : SupplierPart} (member : old ∈ service.store.database.supplierParts.rows)
      (same : old.pk = row.pk) : False := by
    have less := Table.pk_lt_next_pk _ member
    rw [show Keyed.pk old = _ from same.trans new] at less
    exact absurd less (lt_irrefl _)
  cases sets with
  | kept member key _ _ => exact absurd key (absent member)
  | changed _ found _ _ =>
      obtain ⟨member, key⟩ := (Table.find_eq_some_iff _ _ _).1 found
      exact absurd key (absent member)
  | created also _ reports result =>
      cases asked
      rw [achieves.body_unique also, result]
      exact Availability.moves_next reports _ _

end SetsAvailability

theorem availability_after {service : Service} (sound : service.IsSound)
    (initially : ∀ row ∈ service.store.database.supplierParts.rows, row.availability.IsSound)
    (events : List Event) :
    ∀ row ∈ (service.after events).store.database.supplierParts.rows,
      row.availability.IsSound := by
  induction events generalizing service with
  | nil => exact initially
  | cons event rest induction =>
      apply induction (step_is_sound sound event)
      intro row member
      exact (sets_availability sound event member).is_sound initially

/-- The supplier part that a request creates is there afterwards, under the next key. -/
theorem created_supplier_part (sound : service.IsSound) {around : Surroundings}
    {request : Request} {body : Json}
    (achieves : service.Achieves around request (.create .supplierParts) body) :
    ∃ row, (service.handle around request).2.store.database.supplierParts.find?
      service.store.database.supplierParts.nextPk = some row := by
  obtain ⟨input, _, ran⟩ := achieves.create_supplier_part
  obtain ⟨changes, makes, _, result⟩ :=
    Store.changes_of_success sound.database (congrArg Prod.fst ran)
  rw [ran] at result
  cases makes with
  | createSupplierPart creates =>
      rw [show (service.handle around request).2.store.database = _ from result]
      exact (Table.contains_iff_find _ _).1 (Database.contains_created creates)

/-- After every run: whatever happens next, the availability of a supplier part that is there before
and after moves as the body says when it is a request that succeeds in an update of that supplier
part, and else stays; a supplier part that a request creates has the availability that the body says
of one that is unreported. So no available quantity is negative, and without a report it is zero. -/
theorem availability_in_every_run (currencies : CurrencyTable)
    (remoteImages : RemoteImageSettings) (events : List Event) :
    let service := (fresh currencies remoteImages).after events
    (∀ event pk before after, service.store.database.supplierParts.find? pk = some before →
      (service.step event).store.database.supplierParts.find? pk = some after →
        (∀ around request, event = .request around request → ∀ isPartial body,
          service.Achieves around request (.update .supplierParts pk isPartial) body →
            Availability.Moves body around.now before.availability after.availability) ∧
        ((∀ around request, event = .request around request → ∀ isPartial body,
          ¬ service.Achieves around request (.update .supplierParts pk isPartial) body) →
            after.availability = before.availability)) ∧
      (∀ around request body,
        service.Achieves around request (.create .supplierParts) body →
          ∃ row, (service.handle around request).2.store.database.supplierParts.find?
              service.store.database.supplierParts.nextPk = some row ∧
            Availability.Moves body around.now .unreported row.availability) ∧
      ∀ row ∈ service.store.database.supplierParts.rows,
        0 ≤ row.available.toRat ∧ (row.availabilityUpdated = none → row.available.toRat = 0) := by
  intro service
  have initially := fresh_is_sound currencies remoteImages
  have sound : service.IsSound := after_is_sound initially events
  refine ⟨?_, ?_, ?_⟩
  · intro event pk before after was found
    obtain ⟨member, rfl⟩ := (Table.find_eq_some_iff _ _ _).1 found
    exact (sets_availability sound event member).of_old was
  · intro around request body achieves
    obtain ⟨row, found⟩ := created_supplier_part sound achieves
    obtain ⟨member, key⟩ := (Table.find_eq_some_iff _ _ _).1 found
    exact ⟨row, found,
      (sets_availability sound (.request around request) member).of_new rfl achieves key⟩
  · intro row member
    have none (old : SupplierPart) (nowhere : old ∈ (Table.empty : Table SupplierPart).rows) :
        old.availability.IsSound := absurd nowhere ((Table.mem_empty old).1)
    obtain ⟨nonnegative, nothing⟩ := availability_after initially none events row member
    exact ⟨nonnegative, nothing⟩

end Service

/-! ## A quantity that is reported -/

namespace SmallCatalogue

open Http

def newSupplierPart : Request :=
  post "/company/part/" "\x7b\"part\": 1, \"supplier\": 1, \"SKU\": \"S-1\"\x7d"

def stockedEvents : List Event := events ++ [.request around newSupplierPart]

def newReport : Request :=
  ⟨"PATCH", "/company/part/1/", "", some "application/json", "\x7b\"available\": \"7.50\"\x7d"⟩

def stocked : Service := (Service.fresh .standard .standard).after stockedEvents

theorem report_is_asked :
    Action.ofRequest newReport = .ok (.update .supplierParts 1 true) := by
  decide +kernel

theorem report_is_read : newReport.json.toBool = true := by decide +kernel

theorem report_succeeds : isSuccess (stocked.handle around newReport).1.status = true := by
  decide +kernel

theorem supplier_part_before : (stocked.store.database.supplierParts.find? 1).isSome = true := by
  decide +kernel

theorem supplier_part_after_report :
    ((stocked.step (.request around newReport)).store.database.supplierParts.find? 1).map
      (fun row => (row.available.toText, row.availabilityUpdated)) =
        some ("7.5", some around.now) := by
  decide +kernel

end SmallCatalogue

open SmallCatalogue in
/-- The supplier part was put in without a quantity. -/
theorem report_moves_availability :
    ∃ body before after,
      stocked.Achieves around newReport (.update .supplierParts 1 true) body ∧
      stocked.store.database.supplierParts.find? 1 = some before ∧
      (stocked.step (.request around newReport)).store.database.supplierParts.find? 1 =
        some after ∧
      Availability.Moves body around.now before.availability after.availability ∧
      after.available.toText = "7.5" := by
  obtain ⟨moves, _, _⟩ := Service.availability_in_every_run .standard .standard stockedEvents
  obtain ⟨before, was⟩ := Option.isSome_iff_exists.1 supplier_part_before
  obtain ⟨after, found, shown⟩ := Option.map_eq_some_iff.1 supplier_part_after_report
  cases read : newReport.json with
  | error rejection =>
      have readable := report_is_read
      rw [read] at readable
      cases readable
  | ok body =>
      have achieves : stocked.Achieves around newReport (.update .supplierParts 1 true) body :=
        ⟨report_is_asked, read, report_succeeds⟩
      have moved := (moves _ 1 before after was found).1 around newReport rfl true body achieves
      exact ⟨body, before, after, achieves, was, found, moved, congrArg Prod.fst shown⟩

end SupplyCatalog
