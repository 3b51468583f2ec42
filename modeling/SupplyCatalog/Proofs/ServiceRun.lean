import SupplyCatalog.Proofs.Request
import SupplyCatalog.Proofs.StoredText

/-!
# Runs of the service

A service starts with an empty store. Parts and stock are put into the store from outside, requests
are handled in between, and all of it in any order.
-/

namespace SupplyCatalog

inductive Event
  | seedPart (row : Part)
  | seedStockItem (item : StockItem)
  | request (around : Surroundings) (request : Http.Request)

/-- The clock shows a year of four digits. -/
structure Surroundings.IsTimed (around : Surroundings) : Prop where
  now : around.now.IsWritable
  today : around.today.IsWritable

def Event.IsTimed : Event → Prop
  | request around _ => around.IsTimed
  | _ => True

namespace Service

def step (service : Service) : Event → Service
  | .seedPart row => { service with store := (service.store.addPart row).2 }
  | .seedStockItem item => { service with store := (service.store.addStockItem item).2 }
  | .request around request => (service.handle around request).2

def after (service : Service) (events : List Event) : Service := events.foldl step service

def fresh (currencies : CurrencyTable) (remoteImages : RemoteImageSettings) : Service :=
  ⟨.empty, currencies, remoteImages⟩

theorem fresh_is_sound (currencies : CurrencyTable) (remoteImages : RemoteImageSettings) :
    (fresh currencies remoteImages).IsSound where
  database := Database.empty_is_sound
  media := MediaTree.empty_is_laid_out

theorem step_is_sound {service : Service} (sound : service.IsSound) (event : Event) :
    (service.step event).IsSound := by
  cases event with
  | seedPart row =>
      have wellNamed : (Operation.addPart row).IsWellNamed := trivial
      exact carried_out_is_sound sound wellNamed
  | seedStockItem item =>
      have wellNamed : (Operation.addStockItem item).IsWellNamed := trivial
      exact carried_out_is_sound sound wellNamed
  | request around request => exact handle_is_sound sound around request

theorem after_is_sound {service : Service} (sound : service.IsSound) (events : List Event) :
    (service.after events).IsSound := by
  induction events generalizing service with
  | nil => exact sound
  | cons event rest induction => exact induction (step_is_sound sound event)

/-! ## Operations of a run -/

/-- An event carries out one operation, or none. Requests make sure that an attached file has the
name of a file. -/
theorem step_carries_out {service : Service} (sound : service.IsSound) (event : Event) :
    ∃ operations : List Operation, (∀ operation ∈ operations, operation.IsWellNamed) ∧
      (service.step event).store = service.store.after operations := by
  have single {operation : Operation} (named : operation.IsWellNamed) :
      ∀ other ∈ [operation], other.IsWellNamed := by
    intro other member
    rw [List.mem_singleton.1 member]
    exact named
  cases event with
  | seedPart row => exact ⟨[.addPart row], single trivial, rfl⟩
  | seedStockItem item => exact ⟨[.addStockItem item], single trivial, rfl⟩
  | request around request =>
      have handles := handle_handles sound.database.references around request
      change ∃ operations : List Operation, _ ∧ (service.handle around request).2.store = _
      generalize service.handle around request = outcome at handles ⊢
      cases handles with
      | answered response expected => exact ⟨[], List.forall_mem_nil _, rfl⟩
      | carriedOut asks response tells => exact ⟨[_], single asks.well_named, rfl⟩

/-- So what holds after all runs of operations whose attached files have proper names holds after
all runs of a service. -/
theorem after_carries_out {service : Service} (sound : service.IsSound) (events : List Event) :
    ∃ operations : List Operation, (∀ operation ∈ operations, operation.IsWellNamed) ∧
      (service.after events).store = service.store.after operations := by
  induction events generalizing service with
  | nil => exact ⟨[], List.forall_mem_nil _, rfl⟩
  | cons event rest induction =>
      obtain ⟨first, firstNamed, stepped⟩ := step_carries_out sound event
      obtain ⟨later, laterNamed, ran⟩ := induction (step_is_sound sound event)
      refine ⟨first ++ later, ?_, ?_⟩
      · intro operation member
        exact (List.mem_append.1 member).elim (firstNamed operation) (laterNamed operation)
      · rw [Store.after_append, ← stepped]
        exact ran

/-! ## Clocks -/

theorem run_asked_is_timed {service : Service} {around : Surroundings} {request : Http.Request}
    {operation : Operation} (sound : service.IsSound)
    (asks : service.AsksFor around request operation) (clock : around.IsTimed)
    (times : service.store.database.IsTimed) :
    (operation.run service.store).2.database.IsTimed := by
  apply Operation.run_is_timed sound.database times
  rcases asks with ⟨action, _, asks⟩
  cases asks with
  | createSupplierPart read given => exact clock.now
  | updateSupplierPart read given => exact clock.now
  | createPriceBreak read given => exact clock.now
  | updatePriceBreak read given => exact clock.now
  | createAttachment read given => exact clock.today
  | _ => trivial

theorem step_is_timed {service : Service} {event : Event} (sound : service.IsSound)
    (clock : event.IsTimed) (times : service.store.database.IsTimed) :
    (service.step event).store.database.IsTimed := by
  cases event with
  | seedPart row =>
      have timed : (Operation.addPart row).IsTimed := trivial
      exact Operation.run_is_timed sound.database times timed
  | seedStockItem item =>
      have timed : (Operation.addStockItem item).IsTimed := trivial
      exact Operation.run_is_timed sound.database times timed
  | request around request =>
      have handles := handle_handles sound.database.references around request
      change (service.handle around request).2.store.database.IsTimed
      generalize service.handle around request = outcome at handles ⊢
      cases handles with
      | answered response expected => exact times
      | carriedOut asks response tells => exact run_asked_is_timed sound asks clock times

theorem after_is_timed {service : Service} (events : List Event) (sound : service.IsSound)
    (clocks : ∀ event ∈ events, event.IsTimed) (times : service.store.database.IsTimed) :
    (service.after events).store.database.IsTimed := by
  induction events generalizing service with
  | nil => exact times
  | cons event rest induction =>
      have clock := clocks event List.mem_cons_self
      have later := fun other member => clocks other (List.mem_cons_of_mem event member)
      exact induction (step_is_sound sound event) later (step_is_timed sound clock times)

/-- After any run, all that rows refer to is there and only parts that can be bought are made and
supplied; as long as clocks showed years of four digits, all texts in the database read back; and
the next request, whatever it is, is not answered with a fault of the service. -/
theorem sound_in_every_run (currencies : CurrencyTable) (remoteImages : RemoteImageSettings)
    (events : List Event) :
    let service := (fresh currencies remoteImages).after events
    service.store.database.HasReferences ∧
      ((∀ event ∈ events, event.IsTimed) → service.store.database.ReadsBack) ∧
      ∀ around request, service.NamesFit around request →
        (service.handle around request).1.status ≠ 500 := by
  have initially := fresh_is_sound currencies remoteImages
  have sound := after_is_sound initially events
  refine ⟨sound.database.references, ?_, ?_⟩
  · intro clocks
    have times := after_is_timed events initially clocks Database.empty_is_timed
    exact Database.reads_back sound.database.decimals times
  · intro around request fits
    exact handle_is_no_fault sound fits

end Service

/-! ## A small run -/

namespace SmallCatalogue

def around : Surroundings := ⟨⟨1700000000, 250000000⟩, ⟨2023, 11, 14⟩, fun _ => .unreachable⟩

def post (path body : String) : Http.Request := ⟨"POST", path, "", some "application/json", body⟩

def newCompany : Http.Request :=
  post "/company/" "\x7b\"name\": \"Acme\", \"currency\": \"USD\", \"is_manufacturer\": true\x7d"

def newManufacturerPart : Http.Request :=
  post "/company/part/manufacturer/" "\x7b\"part\": 1, \"manufacturer\": 1, \"MPN\": \"B-1\"\x7d"

def events : List Event := [.seedPart part, .request around newCompany]

theorem events_are_timed : ∀ event ∈ events, event.IsTimed := by
  have clock : around.IsTimed := {
    now := ⟨by decide, by decide, by decide⟩
    today := ⟨by decide, by decide, by decide⟩ }
  intro event member
  simp only [events, List.mem_cons, List.not_mem_nil, or_false] at member
  rcases member with rfl | rfl
  · trivial
  · exact clock

/-- No file goes with a manufacturer part. -/
theorem names_fit (service : Service) : service.NamesFit around newManufacturerPart := by
  intro operation holds file kept
  rcases holds with ⟨action, asked, asks⟩
  have route : Http.Action.ofRequest newManufacturerPart = .ok (.create .manufacturerParts) := by
    rfl
  rw [route] at asked
  cases asked
  cases asks
  cases kept

end SmallCatalogue

open SmallCatalogue in
theorem small_catalogue_is_served :
    let service := (Service.fresh .standard .standard).after events
    (∀ event ∈ events, event.IsTimed) ∧ service.store.database.ReadsBack ∧
      service.NamesFit around newManufacturerPart ∧
      (service.handle around newManufacturerPart).1.status ≠ 500 := by
  obtain ⟨_, readable, answered⟩ := Service.sound_in_every_run .standard .standard events
  exact ⟨events_are_timed, readable events_are_timed, names_fit _, answered _ _ (names_fit _)⟩

end SupplyCatalog
