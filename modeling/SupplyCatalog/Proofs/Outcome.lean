import SupplyCatalog.Proofs.Table
import SupplyCatalog.Store.Reference

/-!
# Outcomes

A step that fails either tells its client what was wrong with the request, or is a fault of the
service itself. What a step yields is said of its value, and leaves no room for a fault of the
service; it is put together from what the steps before it yield.
-/

namespace SupplyCatalog

/-- A value with the property, or a failure that is not a fault of the service. -/
def Yields {α : Type} (outcome : Except ServiceError α) (property : α → Prop) : Prop :=
  match outcome with
  | .ok value => property value
  | .error failure => failure.status ≠ 500

namespace Yields

variable {α β : Type} {property : α → Prop} {further : β → Prop}

theorem ok {value : α} (holds : property value) : Yields (.ok value) property := holds

theorem value {outcome : Except ServiceError α} (yields : Yields outcome property) {value : α}
    (result : outcome = .ok value) : property value := by
  subst result
  exact yields

theorem failure {outcome : Except ServiceError α} (yields : Yields outcome property)
    {failure : ServiceError} (result : outcome = .error failure) : failure.status ≠ 500 := by
  subst result
  exact yields

theorem mono {outcome : Except ServiceError α} {weaker : α → Prop}
    (yields : Yields outcome property) (implies : ∀ value, property value → weaker value) :
    Yields outcome weaker := by
  cases outcome with
  | ok value => exact implies value yields
  | error failure => exact yields

theorem bind {outcome : Except ServiceError α} {next : α → Except ServiceError β}
    (first : Yields outcome property)
    (rest : ∀ value, property value → Yields (next value) further) :
    Yields (outcome >>= next) further := by
  cases outcome with
  | ok value => exact rest value first
  | error failure => exact first

/-- A step whose value is known. -/
theorem bind_ok {outcome : Except ServiceError α} {next : α → Except ServiceError β} {value : α}
    (first : outcome = .ok value) (rest : Yields (next value) further) :
    Yields (outcome >>= next) further := by
  subst first
  exact rest

theorem map {outcome : Except ServiceError α} (shown : α → β)
    (yields : Yields outcome fun value => further (shown value)) :
    Yields (outcome.map shown) further := by
  cases outcome with
  | ok value => exact yields
  | error failure => exact yields

end Yields

/-- Steps that succeed as a whole succeed one by one. -/
theorem ok_of_bind {ε α β : Type} {outcome : Except ε α} {next : α → Except ε β} {result : β}
    (succeeds : outcome >>= next = .ok result) :
    ∃ value, outcome = .ok value ∧ next value = .ok result := by
  cases outcome with
  | ok value => exact ⟨value, rfl, succeeds⟩
  | error failure => cases succeeds

/-- Steps that fail as a whole fail at the first of them or later. -/
theorem error_of_bind {ε α β : Type} {outcome : Except ε α} {next : α → Except ε β} {failure : ε}
    (fails : outcome >>= next = .error failure) :
    outcome = .error failure ∨ ∃ value, outcome = .ok value ∧ next value = .error failure := by
  cases outcome with
  | ok value => exact .inr ⟨value, rfl, fails⟩
  | error other =>
      cases fails
      exact .inl rfl

theorem bind_of_ok {ε α β : Type} {outcome : Except ε α} {next : α → Except ε β} {value : α}
    (succeeds : outcome = .ok value) : outcome >>= next = next value := by
  rw [succeeds]
  rfl

/-! ## Checks -/

theorem status_of_violation (violation : Violation) :
    (ServiceError.ofViolation violation).status ≠ 500 := by
  simp [ServiceError.ofViolation, ServiceError.status]

theorem status_of_field (field message : String) :
    (ServiceError.ofField field message).status ≠ 500 := by
  simp [ServiceError.ofField, ServiceError.status]

theorem status_of_not_found (message : String) :
    (ServiceError.notFound message).status ≠ 500 := by
  simp [ServiceError.status]

theorem yields_check (violations : List Violation) :
    Yields (ServiceError.check violations) fun _ => violations = [] := by
  unfold ServiceError.check
  cases violations with
  | nil => exact .ok rfl
  | cons violation rest => simp [Yields, ServiceError.status]

theorem violation_of_eq_nil_iff {α : Type} (outcome : Except Violation α) :
    Violation.of outcome = [] ↔ ∃ value, outcome = .ok value := by
  cases outcome with
  | ok value => simp [Violation.of]
  | error violation => simp [Violation.of]

/-! ## Rows under their keys -/

namespace Table

variable {α : Type} [Keyed α]

theorem yields_wanted (table : Table α) (kind : String) (pk : Int) :
    Yields (table.wanted kind pk) fun row => table.find? pk = some row := by
  unfold wanted
  cases found : table.find? pk with
  | some row => exact .ok rfl
  | none => simp [Yields, ServiceError.status]

/-- A row that only has to be there. -/
theorem yields_discard_wanted (table : Table α) (kind : String) (pk : Int) :
    Yields (discard (table.wanted kind pk)) fun _ => table.contains pk = true := by
  unfold wanted contains
  cases found : table.find? pk with
  | some row => exact .ok rfl
  | none =>
      simp [discard, Functor.discard, Functor.mapConst, Except.map, Yields, ServiceError.status]

theorem wanted_of_find {table : Table α} {pk : Int} {row : α} (kind : String)
    (found : table.find? pk = some row) : table.wanted kind pk = .ok row := by
  unfold wanted
  rw [found]

theorem wanted_of_absent {table : Table α} {pk : Int} (kind : String)
    (absent : table.find? pk = none) :
    table.wanted kind pk = .error (.notFound (kind ++ " not found")) := by
  unfold wanted
  rw [absent]

theorem related_of_find {table : Table α} {pk : Int} {row : α} (kind : String)
    (found : table.find? pk = some row) : table.related kind pk = .ok row := by
  unfold related
  rw [found]

theorem referred_eq_ok_iff (table : Table α) (field : String) (pk : Int) (row : α) :
    table.referred field pk = .ok row ↔ table.find? pk = some row := by
  unfold referred
  cases table.find? pk with
  | some found => simp
  | none => simp

end Table

/-- Reading one by one succeeds when it does for each. -/
theorem map_m_ok {α β : Type} (read : α → Except ServiceError β) (rows : List α)
    (reads : ∀ row ∈ rows, ∃ value, read row = .ok value) :
    ∃ values, rows.mapM read = .ok values := by
  induction rows with
  | nil => exact ⟨[], rfl⟩
  | cons row rest induction =>
      obtain ⟨value, first⟩ := reads row (by simp)
      obtain ⟨values, others⟩ := induction fun other member => reads other (by simp [member])
      refine ⟨value :: values, ?_⟩
      rw [List.mapM_cons, first]
      simp only [bind, Except.bind] at others ⊢
      rw [others]
      rfl

end SupplyCatalog
