import SupplyCatalog.Proofs.MediaLayout
import SupplyCatalog.Proofs.Payload
import SupplyCatalog.Service

/-!
# Requests

A request is turned away before anything is read, or answered without a change, or it carries out
one operation of the store, with what its body gave. In the last case the response tells how the
operation came out, and in no case is it the fault of the service unless the operation is.
-/

namespace SupplyCatalog

open Http

/-- The status of a response tells how an operation came out. -/
def Http.Response.Tells (response : Response) : Except ServiceError Unit → Prop
  | .ok _ => isSuccess response.status = true
  | .error failure => response.status = failure.status

namespace Service

/-- The operation that a request asks for, once its body has been read. -/
inductive Asks (service : Service) (around : Surroundings) (request : Request) :
    Action → Operation → Prop
  | createCompany {body : Json} {changes : CompanyChanges} {image : Option CompanyImage}
      (read : request.json = .ok body)
      (given : service.companyInput around.world false body = .ok (changes, image)) :
      Asks service around request (.create .companies) (.createCompany changes image)
  | updateCompany {pk : Int} {isPartial : Bool} {body : Json} {changes : CompanyChanges}
      {image : Option CompanyImage} (read : request.json = .ok body)
      (given : service.companyInput around.world isPartial body = .ok (changes, image)) :
      Asks service around request (.update .companies pk isPartial)
        (.updateCompany pk changes image)
  | deleteCompany (pk : Int) :
      Asks service around request (.delete .companies pk) (.deleteCompany pk)
  | createManufacturerPart {body : Json} {changes : ManufacturerPartChanges}
      (read : request.json = .ok body)
      (given : ManufacturerPartChanges.parse false body = .ok changes) :
      Asks service around request (.create .manufacturerParts) (.createManufacturerPart changes)
  | updateManufacturerPart {pk : Int} {isPartial : Bool} {body : Json}
      {changes : ManufacturerPartChanges} (read : request.json = .ok body)
      (given : ManufacturerPartChanges.parse isPartial body = .ok changes) :
      Asks service around request (.update .manufacturerParts pk isPartial)
        (.updateManufacturerPart pk changes)
  | deleteManufacturerPart (pk : Int) :
      Asks service around request (.delete .manufacturerParts pk) (.deleteManufacturerPart pk)
  | createParameter {body : Json} {changes : ParameterChanges} (read : request.json = .ok body)
      (given : ParameterChanges.parse false body = .ok changes) :
      Asks service around request (.create .parameters) (.createParameter changes)
  | updateParameter {pk : Int} {isPartial : Bool} {body : Json} {changes : ParameterChanges}
      (read : request.json = .ok body)
      (given : ParameterChanges.parse isPartial body = .ok changes) :
      Asks service around request (.update .parameters pk isPartial) (.updateParameter pk changes)
  | deleteParameter (pk : Int) :
      Asks service around request (.delete .parameters pk) (.deleteParameter pk)
  | createSupplierPart {body : Json} {input : SupplierPartInput} (read : request.json = .ok body)
      (given : SupplierPartInput.parseCreate body = .ok input) :
      Asks service around request (.create .supplierParts) (.createSupplierPart input around.now)
  | updateSupplierPart {pk : Int} {isPartial : Bool} {body : Json} {input : SupplierPartInput}
      (read : request.json = .ok body)
      (given : SupplierPartInput.parseUpdate isPartial body = .ok input) :
      Asks service around request (.update .supplierParts pk isPartial)
        (.updateSupplierPart pk input around.now)
  | deleteSupplierPart (pk : Int) :
      Asks service around request (.delete .supplierParts pk) (.deleteSupplierPart pk)
  | createPriceBreak {body : Json} {changes : PriceBreakChanges} (read : request.json = .ok body)
      (given : PriceBreakChanges.parse service.currencies false body = .ok changes) :
      Asks service around request (.create .priceBreaks)
        (.createPriceBreak changes service.currencies around.now)
  | updatePriceBreak {pk : Int} {isPartial : Bool} {body : Json} {changes : PriceBreakChanges}
      (read : request.json = .ok body)
      (given : PriceBreakChanges.parse service.currencies isPartial body = .ok changes) :
      Asks service around request (.update .priceBreaks pk isPartial)
        (.updatePriceBreak pk changes around.now)
  | deletePriceBreak (pk : Int) :
      Asks service around request (.delete .priceBreaks pk) (.deletePriceBreak pk)
  | createAttachment {kind : AttachmentKind} {body : Json} {input : AttachmentInput}
      (read : request.json = .ok body)
      (given : AttachmentInput.parse kind.ownerField body = .ok input) :
      Asks service around request (.create (.attachments kind))
        (.createAttachment kind input around.today)
  | deleteAttachment (kind : AttachmentKind) (pk : Int) :
      Asks service around request (.delete (.attachments kind) pk) (.deleteAttachment kind pk)

/-- What may come of an action. -/
inductive Performs (service : Service) (around : Surroundings) (request : Request)
    (action : Action) : Reply → Prop
  | turnedAway (rejection : Rejection) : Performs service around request action (.error rejection)
  | answered (response : Response) (expected : response.status ≠ 500) :
      Performs service around request action (.ok (response, service.store))
  | carriedOut {operation : Operation} (asks : service.Asks around request action operation)
      (response : Response) (tells : response.Tells (operation.run service.store).1) :
      Performs service around request action (.ok (response, (operation.run service.store).2))

variable {service : Service} {around : Surroundings} {request : Request} {action : Action}

theorem Asks.well_named {operation : Operation}
    (asks : service.Asks around request action operation) : operation.IsWellNamed := by
  cases asks with
  | createAttachment read given => exact ((AttachmentInput.yields_parse _ _).value given).2
  | _ => trivial

theorem Asks.short_key {operation : Operation}
    (asks : service.Asks around request action operation) : operation.HasShortKey := by
  cases asks with
  | createAttachment read given => exact ((AttachmentInput.yields_parse _ _).value given).1
  | _ => trivial

/-- Stock is nothing that a request can ask for. -/
theorem Asks.not_stock {operation : Operation}
    (asks : service.Asks around request action operation) (item : StockItem) :
    operation ≠ .addStockItem item := by
  rintro rfl
  cases asks

/-! ## Parts of an action -/

/-- A step by which a request may be turned away. -/
theorem performs_bind {α : Type} {step : Except Rejection α} {next : α → Reply}
    (rest : ∀ value, step = .ok value → service.Performs around request action (next value)) :
    service.Performs around request action (step >>= next) := by
  cases result : step with
  | error rejection => exact .turnedAway rejection
  | ok value => exact rest value result

theorem performs_reading {α : Type} {shown : α → Json} {result : Except ServiceError α}
    (yields : Yields result fun _ => True) :
    service.Performs around request action (.ok (reading service.store shown result)) := by
  cases result with
  | ok value => exact .answered _ (by simp [Response.ofResult])
  | error failure => exact .answered _ yields

/-- Reading that cannot fail. -/
theorem performs_listing {α : Type} {shown : α → Json} {result : Except ServiceError α}
    (reads : ∃ value, result = .ok value) :
    service.Performs around request action (.ok (reading service.store shown result)) := by
  rcases reads with ⟨value, rfl⟩
  exact performs_reading (.ok trivial)

theorem performs_deleting {operation : Operation} {outcome : Except ServiceError Unit × Store}
    (asks : service.Asks around request action operation)
    (same : operation.run service.store = Operation.unread outcome) :
    service.Performs around request action (.ok (deleting outcome)) := by
  rcases outcome with ⟨result, store⟩
  have performs (response : Response)
      (tells : response.Tells (operation.run service.store).1) :=
    Performs.carriedOut asks response tells
  rw [same] at performs
  cases result with
  | ok _ => exact performs (.ofDeletion (.ok ())) rfl
  | error failure => exact performs (.ofDeletion (.error failure)) rfl

theorem performs_writing {α β : Type} {input : Except ServiceError α}
    {carry : α → Except ServiceError β × Store} {status : Nat} {shown : β → Json}
    (success : isSuccess status = true)
    (yields : Yields input fun value => ∃ operation,
      service.Asks around request action operation ∧
        operation.run service.store = Operation.unread (carry value)) :
    service.Performs around request action
      (.ok (given service.store input fun value => writing status shown (carry value))) := by
  cases input with
  | error failure => exact .answered _ yields
  | ok value =>
      rcases yields with ⟨operation, asks, same⟩
      have performs (response : Response)
          (tells : response.Tells (operation.run service.store).1) :=
        Performs.carriedOut asks response tells
      rw [same] at performs
      simp only [given, writing]
      generalize carry value = outcome at performs ⊢
      rcases outcome with ⟨result, store⟩
      cases result with
      | ok answer => exact performs (.ofResult status shown (.ok answer)) success
      | error failure => exact performs (.ofResult status shown (.error failure)) rfl

/-! ## Actions -/

theorem yields_company_input (service : Service) (world : RemoteWorld) (isPartial : Bool)
    (body : Json) : Yields (service.companyInput world isPartial body) fun _ => True := by
  apply Yields.bind (yields_read (CompanyChanges.read service.currencies) isPartial body)
  intro changes _
  apply Yields.bind (yields_fetch service.remoteImages world changes.remoteImage)
  intro image _
  exact .ok trivial

/-- A request whose body is read before an operation is carried out with it. -/
theorem performs_given {α β : Type} {read : Json → Except ServiceError α} {property : α → Prop}
    {carry : α → Except ServiceError β × Store} {status : Nat} {shown : β → Json}
    (success : isSuccess status = true) (yields : ∀ body, Yields (read body) property)
    (asks : ∀ body value, request.json = .ok body → read body = .ok value →
      ∃ operation, service.Asks around request action operation ∧
        operation.run service.store = Operation.unread (carry value)) :
    service.Performs around request action (do
      let body ← request.json
      return given service.store (read body) fun value => writing status shown (carry value)) := by
  apply performs_bind
  intro body declared
  apply performs_writing success
  apply (yields body).itself.mono
  intro value holds
  exact asks body value declared holds.1

theorem create_performs (service : Service) (around : Surroundings) (request : Request)
    (resource : Resource) :
    service.Performs around request (.create resource)
      (service.create around request resource) := by
  cases resource with
  | companies =>
      apply performs_given rfl (service.yields_company_input around.world false)
      intro body input read given
      exact ⟨_, .createCompany read given, rfl⟩
  | manufacturerParts =>
      apply performs_bind
      intro query _
      apply performs_given rfl (yields_read ManufacturerPartChanges.read false)
      intro body changes read given
      exact ⟨_, .createManufacturerPart read given, rfl⟩
  | parameters =>
      apply performs_bind
      intro query _
      apply performs_given rfl (yields_read ParameterChanges.read false)
      intro body changes read given
      exact ⟨_, .createParameter read given, rfl⟩
  | supplierParts =>
      apply performs_bind
      intro query _
      apply performs_given rfl (yields_read SupplierPartInput.readCreate false)
      intro body input read given
      exact ⟨_, .createSupplierPart read given, rfl⟩
  | priceBreaks =>
      apply performs_bind
      intro query _
      apply performs_given rfl (yields_read (PriceBreakChanges.read service.currencies) false)
      intro body changes read given
      exact ⟨_, .createPriceBreak read given, rfl⟩
  | attachments kind =>
      apply performs_given rfl (AttachmentInput.yields_parse kind.ownerField)
      intro body input read given
      exact ⟨_, .createAttachment read given, rfl⟩

theorem update_performs (service : Service) (around : Surroundings) (request : Request) (pk : Int)
    (isPartial : Bool) (resource : Resource) :
    service.Performs around request (.update resource pk isPartial)
      (service.update around request pk isPartial resource) := by
  cases resource with
  | companies =>
      apply performs_given rfl (service.yields_company_input around.world isPartial)
      intro body input read given
      exact ⟨_, .updateCompany read given, rfl⟩
  | manufacturerParts =>
      apply performs_bind
      intro query _
      apply performs_given rfl (yields_read ManufacturerPartChanges.read isPartial)
      intro body changes read given
      exact ⟨_, .updateManufacturerPart read given, rfl⟩
  | parameters =>
      apply performs_bind
      intro query _
      apply performs_given rfl (yields_read ParameterChanges.read isPartial)
      intro body changes read given
      exact ⟨_, .updateParameter read given, rfl⟩
  | supplierParts =>
      apply performs_bind
      intro query _
      apply performs_given rfl (yields_read SupplierPartInput.readUpdate isPartial)
      intro body input read given
      exact ⟨_, .updateSupplierPart read given, rfl⟩
  | priceBreaks =>
      apply performs_bind
      intro query _
      apply performs_given rfl (yields_read (PriceBreakChanges.read service.currencies) isPartial)
      intro body changes read given
      exact ⟨_, .updatePriceBreak read given, rfl⟩
  | attachments kind => exact .turnedAway .wrongMethod

theorem delete_performs (service : Service) (around : Surroundings) (request : Request) (pk : Int)
    (resource : Resource) :
    service.Performs around request (.delete resource pk) (service.delete pk resource) := by
  cases resource with
  | companies => exact performs_deleting (.deleteCompany pk) rfl
  | manufacturerParts => exact performs_deleting (.deleteManufacturerPart pk) rfl
  | parameters => exact performs_deleting (.deleteParameter pk) rfl
  | supplierParts => exact performs_deleting (.deleteSupplierPart pk) rfl
  | priceBreaks => exact performs_deleting (.deletePriceBreak pk) rfl
  | attachments kind => exact performs_deleting (.deleteAttachment kind pk) rfl

/-! Whatever is read leads on to rows that are there. -/

section Reading

variable (references : service.store.database.HasReferences)

include references

theorem list_performs (around : Surroundings) (request : Request) (resource : Resource) :
    service.Performs around request (.list resource) (service.list request resource) := by
  cases resource with
  | companies =>
      apply performs_bind
      intro query _
      exact performs_listing ⟨_, rfl⟩
  | manufacturerParts =>
      apply performs_bind
      intro query _
      exact performs_listing (Database.list_manufacturer_parts_ok references query)
  | parameters =>
      apply performs_bind
      intro query _
      exact performs_listing (Database.list_parameters_ok references query)
  | supplierParts =>
      apply performs_bind
      intro query _
      exact performs_listing (Database.list_supplier_parts_ok references query)
  | priceBreaks =>
      apply performs_bind
      intro query _
      exact performs_listing (Database.list_price_breaks_ok references query)
  | attachments kind =>
      apply performs_bind
      intro query _
      exact performs_listing ⟨_, rfl⟩

theorem get_performs (around : Surroundings) (request : Request) (pk : Int)
    (resource : Resource) :
    service.Performs around request (.get resource pk) (service.get request pk resource) := by
  cases resource with
  | companies =>
      apply performs_reading
      apply Yields.bind (Table.yields_wanted _ _ _)
      intro company _
      exact .ok trivial
  | manufacturerParts =>
      apply performs_bind
      intro query _
      exact performs_reading (Database.yields_get_manufacturer_part references pk)
  | parameters =>
      apply performs_bind
      intro query _
      exact performs_reading (Database.yields_get_parameter references pk)
  | supplierParts =>
      apply performs_bind
      intro query _
      exact performs_reading (Database.yields_get_supplier_part references pk)
  | priceBreaks =>
      apply performs_bind
      intro query _
      exact performs_reading (Database.yields_get_price_break references pk)
  | attachments kind =>
      apply performs_reading
      apply (Table.yields_wanted _ _ _).mono
      intro row _
      trivial

theorem perform_performs (around : Surroundings) (request : Request) (action : Action) :
    service.Performs around request action (service.perform around request action) := by
  cases action with
  | health => exact .answered _ (by decide)
  | currencies => exact .answered _ (by simp)
  | list resource => exact list_performs references around request resource
  | create resource => exact service.create_performs around request resource
  | get resource pk => exact get_performs references around request pk resource
  | update resource pk isPartial =>
      exact service.update_performs around request pk isPartial resource
  | delete resource pk => exact service.delete_performs around request pk resource

end Reading

/-! ## Requests as a whole -/

/-- The operation that a request as a whole asks for. -/
def AsksFor (service : Service) (around : Surroundings) (request : Request)
    (operation : Operation) : Prop :=
  ∃ action, Action.ofRequest request = .ok action ∧
    service.Asks around request action operation

/-- What may come of a request. -/
inductive Handles (service : Service) (around : Surroundings) (request : Request) :
    Response × Service → Prop
  | answered (response : Response) (expected : response.status ≠ 500) :
      Handles service around request (response, service)
  | carriedOut {operation : Operation} (asks : service.AsksFor around request operation)
      (response : Response) (tells : response.Tells (operation.run service.store).1) :
      Handles service around request
        (response, { service with store := (operation.run service.store).2 })

theorem status_of_trimmed (request : Request) (response : Response) :
    (trimmed request response).status = response.status := by
  unfold trimmed
  split <;> rfl

theorem status_of_rejected (rejection : Rejection) :
    (Response.rejected rejection).status ≠ 500 := by
  cases rejection <;> decide

theorem handle_handles (references : service.store.database.HasReferences)
    (around : Surroundings) (request : Request) :
    service.Handles around request (service.handle around request) := by
  unfold handle
  cases asked : Action.ofRequest request with
  | error rejection => exact .answered _ (status_of_rejected rejection)
  | ok action =>
      have performs := perform_performs references around request action
      change service.Handles around request (match service.perform around request action with
        | .ok (response, store) => (trimmed request response, { service with store })
        | .error rejection => (.rejected rejection, service))
      generalize service.perform around request action = reply at performs ⊢
      cases performs with
      | turnedAway rejection => exact .answered _ (status_of_rejected rejection)
      | answered response expected =>
          apply Handles.answered
          rw [status_of_trimmed]
          exact expected
      | carriedOut asks response tells =>
          apply Handles.carriedOut ⟨action, asked, asks⟩
          unfold Response.Tells at tells ⊢
          rw [status_of_trimmed]
          exact tells

/-! ## The service stays sound -/

structure IsSound (service : Service) : Prop where
  database : service.store.database.IsSound
  media : service.store.media.IsLaidOut

theorem AsksFor.well_named {operation : Operation}
    (asks : service.AsksFor around request operation) : operation.IsWellNamed := by
  rcases asks with ⟨action, _, asks⟩
  exact asks.well_named

theorem AsksFor.short_key {operation : Operation}
    (asks : service.AsksFor around request operation) : operation.HasShortKey := by
  rcases asks with ⟨action, _, asks⟩
  exact asks.short_key

theorem AsksFor.not_stock {operation : Operation}
    (asks : service.AsksFor around request operation) (item : StockItem) :
    operation ≠ .addStockItem item := by
  rcases asks with ⟨action, _, asks⟩
  exact asks.not_stock item

/-- A file that a request has kept gets a name that is not too long for a file system. -/
def NamesFit (service : Service) (around : Surroundings) (request : Request) : Prop :=
  ∀ operation, service.AsksFor around request operation → operation.HasFittingName service.store

variable (sound : service.IsSound)

include sound

theorem carried_out_is_sound {operation : Operation} (wellNamed : operation.IsWellNamed) :
    { service with store := (operation.run service.store).2 }.IsSound where
  database := Store.run_is_sound sound.database operation
  media := Operation.run_is_laid_out sound.database wellNamed sound.media

theorem handle_is_sound (around : Surroundings) (request : Request) :
    (service.handle around request).2.IsSound := by
  have handles := handle_handles sound.database.references around request
  generalize service.handle around request = outcome at handles ⊢
  cases handles with
  | answered response expected => exact sound
  | carriedOut asks response tells => exact carried_out_is_sound sound asks.well_named

/-- No request is answered with a fault of the service. -/
theorem handle_is_no_fault (fits : service.NamesFit around request) :
    (service.handle around request).1.status ≠ 500 := by
  have handles := handle_handles sound.database.references around request
  generalize service.handle around request = outcome at handles ⊢
  cases handles with
  | answered response expected => exact expected
  | carriedOut asks response tells =>
      rename_i operation
      have yields := Operation.run_yields sound.database asks.well_named sound.media
        asks.short_key (fits operation asks) asks.not_stock
      cases result : (operation.run service.store).1 with
      | ok _ =>
          rw [result] at tells
          intro fault
          rw [Response.Tells, fault] at tells
          exact absurd tells (by decide)
      | error failure =>
          rw [result] at tells
          rw [tells]
          exact yields.failure result

end Service

end SupplyCatalog
