import SupplyCatalog.Proofs.Request

/-!
# Requests that succeed

A request with a body that is answered with a success has been read as a whole, and the operation
that it asks for has been carried out.
-/

namespace SupplyCatalog

open Http

namespace Service

variable {service : Service} {around : Surroundings} {request : Request} {action : Action}
  {response : Response} {store : Store}

theorem not_success_of_failure (failure : ServiceError) : isSuccess failure.status = false := by
  cases failure <;> rfl

theorem not_success_of_rejected (rejection : Rejection) :
    isSuccess (Response.rejected rejection).status = false := by
  cases rejection <;> rfl

/-- An operation that succeeds is reported as a success. -/
theorem success_of_tells {operation : Operation} (tells : response.Tells (operation.run store).1)
    (succeeds : operation.Succeeds store) : isSuccess response.status = true := by
  rw [show (operation.run store).1 = .ok () from succeeds] at tells
  exact tells

/-- A request that succeeds has not been turned away. -/
theorem performed_of_success (asked : Action.ofRequest request = .ok action)
    (success : isSuccess (service.handle around request).1.status = true) :
    ∃ response, service.perform around request action =
        .ok (response, (service.handle around request).2.store) ∧
      isSuccess response.status = true := by
  have handled : service.handle around request =
      match service.perform around request action with
      | .ok (response, store) => (trimmed request response, { service with store })
      | .error rejection => (.rejected rejection, service) := by
    unfold handle
    rw [asked]
    rfl
  rw [handled] at success ⊢
  generalize service.perform around request action = reply at success ⊢
  cases reply with
  | error rejection =>
      have fails := not_success_of_rejected rejection
      exact absurd (fails.symm.trans success) Bool.false_ne_true
  | ok reply =>
      have same := congrArg isSuccess (status_of_trimmed request reply.1)
      exact ⟨reply.1, rfl, same.symm.trans success⟩

/-- What is written on a success is what was read of the body. -/
theorem carried_of_success {α β : Type} {input : Except ServiceError α}
    {carry : α → Except ServiceError β × Store} {status : Nat} {shown : β → Json}
    (replied : given service.store input (fun value => writing status shown (carry value)) =
      (response, store))
    (success : isSuccess response.status = true) :
    ∃ value, input = .ok value ∧ Operation.unread (carry value) = (.ok (), store) := by
  cases input with
  | error failure =>
      cases replied
      have fails := not_success_of_failure failure
      exact absurd (fails.symm.trans success) Bool.false_ne_true
  | ok value =>
      refine ⟨value, rfl, ?_⟩
      unfold given writing at replied
      dsimp only at replied
      generalize carry value = outcome at replied ⊢
      obtain ⟨result, after⟩ := outcome
      cases result with
      | ok answer =>
          cases replied
          rfl
      | error failure =>
          cases replied
          have fails := not_success_of_failure failure
          exact absurd (fails.symm.trans success) Bool.false_ne_true

/-- The request asks for an action, has a body, and succeeds. -/
structure Achieves (service : Service) (around : Surroundings) (request : Request)
    (action : Action) (body : Json) : Prop where
  asked : Action.ofRequest request = .ok action
  read : request.json = .ok body
  success : isSuccess (service.handle around request).1.status = true

namespace Achieves

variable {body : Json}

theorem update_supplier_part {pk : Int} {isPartial : Bool}
    (achieves : service.Achieves around request (.update .supplierParts pk isPartial) body) :
    ∃ input, SupplierPartInput.parseUpdate isPartial body = .ok input ∧
      (Operation.updateSupplierPart pk input around.now).run service.store =
        (.ok (), (service.handle around request).2.store) := by
  obtain ⟨response, performed, success⟩ := performed_of_success achieves.asked achieves.success
  obtain ⟨query, _, rest⟩ := ok_of_bind performed
  obtain ⟨other, read, replied⟩ := ok_of_bind rest
  obtain rfl := Except.ok.inj (achieves.read.symm.trans read)
  exact carried_of_success (Except.ok.inj replied) success

theorem create_supplier_part
    (achieves : service.Achieves around request (.create .supplierParts) body) :
    ∃ input, SupplierPartInput.parseCreate body = .ok input ∧
      (Operation.createSupplierPart input around.now).run service.store =
        (.ok (), (service.handle around request).2.store) := by
  obtain ⟨response, performed, success⟩ := performed_of_success achieves.asked achieves.success
  obtain ⟨query, _, rest⟩ := ok_of_bind performed
  obtain ⟨other, read, replied⟩ := ok_of_bind rest
  obtain rfl := Except.ok.inj (achieves.read.symm.trans read)
  exact carried_of_success (Except.ok.inj replied) success

end Achieves

end Service

end SupplyCatalog
