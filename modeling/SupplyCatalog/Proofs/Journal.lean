import Mathlib.Logic.Function.Basic
import SupplyCatalog.Proofs.MediaRow

/-!
# Journals of a run

What is noted of a run, operation by operation: each note may depend on the operation, on the store
that it meets and on what was noted before. A property that ties the store to the journal and that
every operation keeps holds after every run. Most journals have one value for each key, and what
an operation enters stands until another one is entered under the key.
-/

namespace SupplyCatalog

namespace Store

variable {α : Type}

def advance (note : Store → Operation → α → α) (state : Store × α) (operation : Operation) :
    Store × α :=
  ((operation.run state.1).2, note state.1 operation state.2)

/-- What has been noted at the end of a run that starts with an empty store. -/
def journal (note : Store → Operation → α → α) (blank : α) (operations : List Operation) : α :=
  (operations.foldl (advance note) (empty, blank)).2

theorem store_of_advances (note : Store → Operation → α → α) (state : Store × α)
    (operations : List Operation) :
    (operations.foldl (advance note) state).1 = state.1.after operations := by
  induction operations generalizing state with
  | nil => rfl
  | cons operation rest induction => exact induction (advance note state operation)

theorem advances_keep {note : Store → Operation → α → α} {property : Store → α → Prop}
    (step : ∀ store noted operation, operation.IsWellNamed → property store noted →
      property (operation.run store).2 (note store operation noted))
    (operations : List Operation) (wellNamed : ∀ operation ∈ operations, operation.IsWellNamed)
    (state : Store × α) (initially : property state.1 state.2) :
    property (operations.foldl (advance note) state).1
      (operations.foldl (advance note) state).2 := by
  induction operations generalizing state with
  | nil => exact initially
  | cons operation rest induction =>
      have named := wellNamed operation List.mem_cons_self
      have later := fun other member => wellNamed other (List.mem_cons_of_mem operation member)
      exact induction later (advance note state operation)
        (step state.1 state.2 operation named initially)

/-- What every operation on a sound store keeps of the store and the journal together holds after
every run. -/
theorem journal_keeps {note : Store → Operation → α → α} {blank : α}
    {property : Store → α → Prop} (initially : property empty blank)
    (step : ∀ {store noted operation}, property store noted → store.database.IsSound →
      operation.IsWellNamed → store.database.HasPlaces →
      property (operation.run store).2 (note store operation noted))
    (operations : List Operation) (wellNamed : ∀ operation ∈ operations, operation.IsWellNamed) :
    property (empty.after operations) (journal note blank operations) := by
  let together (store : Store) (noted : α) : Prop :=
    store.database.IsSound ∧ store.database.HasPlaces ∧ property store noted
  have first : together empty blank :=
    ⟨Database.empty_is_sound, Database.empty_has_places, initially⟩
  have next (store : Store) (noted : α) (operation : Operation) (named : operation.IsWellNamed)
      (before : together store noted) :
      together (operation.run store).2 (note store operation noted) := by
    obtain ⟨sound, places, kept⟩ := before
    exact ⟨run_is_sound sound operation, Operation.run_has_places sound named places,
      step kept sound named places⟩
  obtain ⟨_, _, holds⟩ := advances_keep next operations wellNamed (empty, blank) first
  rw [store_of_advances] at holds
  exact holds

/-! ## Journals with one value for each key -/

variable {κ β : Type} [DecidableEq κ]

/-- Enters what an operation has for the journal under its key, provided that it succeeds. -/
def enter (entry : Store → Operation → (κ → β) → Option (κ × β)) (store : Store)
    (operation : Operation) (noted : κ → β) : κ → β :=
  match (operation.run store).1, entry store operation noted with
  | .ok _, some (key, value) => Function.update noted key value
  | _, _ => noted

variable {entry : Store → Operation → (κ → β) → Option (κ × β)} {store : Store}
  {operation : Operation} {noted : κ → β}

theorem enter_of_failure (fails : ¬ operation.Succeeds store) :
    enter entry store operation noted = noted := by
  unfold Operation.Succeeds at fails
  unfold enter
  cases outcome : (operation.run store).1 with
  | ok _ => exact absurd outcome fails
  | error failure => rfl

theorem enter_of_none (nothing : entry store operation noted = none) :
    enter entry store operation noted = noted := by
  unfold enter
  rw [nothing]
  cases (operation.run store).1 <;> rfl

theorem enter_of_some (succeeds : operation.Succeeds store) {key : κ} {value : β}
    (entered : entry store operation noted = some (key, value)) :
    enter entry store operation noted = Function.update noted key value := by
  unfold enter
  rw [show (operation.run store).1 = .ok () from succeeds, entered]

end Store

end SupplyCatalog
