import SupplyCatalog.Proofs.RequestRule

/-!
# Quantities that requests report

A request for a supplier part hands on a quantity exactly when its body has the key for it. The
quantity is the number that stands under the key, and is not negative.
-/

namespace SupplyCatalog

/-- The quantity that a body reports: none without the key, else the number under the key. -/
def Json.Reports (body : Json) (quantity : Option Decimal) : Prop :=
  match body.field? "available" with
  | none => quantity = none
  | some value =>
      ∃ number, Value.plainDecimal value = .ok number ∧ 0 ≤ number.toRat ∧ quantity = some number

theorem Value.number_at_least_zero {limit places : Nat} {value : Json} {number : Decimal}
    (read : decimalAtLeast Decimal.zero limit places value = .ok number) :
    plainDecimal value = .ok number ∧ 0 ≤ number.toRat := by
  obtain ⟨checked, precise, least⟩ := ok_of_bind read
  obtain ⟨passed, minimal, same⟩ := ok_of_bind least
  obtain rfl : checked = number := Except.ok.inj same
  obtain ⟨plain, shown, rest⟩ := ok_of_bind precise
  obtain ⟨passed, short, same⟩ := ok_of_bind rest
  obtain rfl : plain = checked := Except.ok.inj same
  have nonneg := Decimal.least_of_checked minimal
  rw [Decimal.to_rat_zero] at nonneg
  exact ⟨shown, nonneg⟩

namespace SupplierPartInput

theorem tells_reported (payload : Payload) :
    (readAvailable payload).Tells (Json.object payload.fields).Reports := by
  constructor
  intro unviolated
  have value := Payload.value_of_unviolated unviolated
  unfold Json.Reports
  change match payload.raw "available" with
    | none => (readAvailable payload).value = none
    | some value => ∃ number, Value.plainDecimal value = .ok number ∧ 0 ≤ number.toRat ∧
        (readAvailable payload).value = some number
  cases given : payload.raw "available" with
  | none =>
      rw [given] at value
      exact value
  | some json =>
      rw [given] at value
      obtain ⟨number, read, handedOn⟩ := value
      obtain ⟨plain, least⟩ := Value.number_at_least_zero read
      exact ⟨number, plain, least, handedOn⟩

theorem reports_of_update {isPartial : Bool} {body : Json} {input : SupplierPartInput}
    (given : parseUpdate isPartial body = .ok input) : body.Reports input.available := by
  obtain ⟨fields, rfl, unviolated, rfl⟩ := read_of_parsed given
  have tells : (readUpdate ⟨fields, isPartial⟩).Tells fun input =>
      (Json.object fields).Reports input.available := by
    apply Noted.Tells.skip
    intro changes
    apply Noted.Tells.bind (tells_reported _)
    intro available reports
    exact .pure reports
  exact tells.told unviolated

theorem reports_of_create {body : Json} {input : SupplierPartInput}
    (given : parseCreate body = .ok input) : body.Reports input.available := by
  obtain ⟨fields, rfl, unviolated, rfl⟩ := read_of_parsed given
  have tells : (readCreate ⟨fields, false⟩).Tells fun input =>
      (Json.object fields).Reports input.available := by
    apply Noted.Tells.skip
    intro changes
    apply Noted.Tells.bind (tells_reported _)
    intro available reports
    apply Noted.Tells.skip
    intro link
    exact .pure reports
  exact tells.told unviolated

end SupplierPartInput

end SupplyCatalog
