import Mathlib.Data.List.Induction
import SupplyCatalog.Proofs.Operation

/-!
# Runs

The store after a list of operations, whether they succeed or fail. A sound database stays sound
through every operation, and so through every run.
-/

namespace SupplyCatalog

def Store.after (store : Store) (operations : List Operation) : Store :=
  operations.foldl (fun store operation => (operation.run store).2) store

namespace Store

theorem after_append (store : Store) (first second : List Operation) :
    store.after (first ++ second) = (store.after first).after second :=
  List.foldl_append

@[simp]
theorem database_remove_file (store : Store) (path : Option String) :
    (store.removeFile path).database = store.database := by
  cases path <;> rfl

/-- An operation that does not succeed leaves the database as it was. -/
theorem database_of_failure {store : Store} {operation : Operation}
    (sound : store.database.IsSound) (fails : ¬ operation.Succeeds store) :
    (operation.run store).2.database = store.database := by
  have ends := operation.run_ends sound
  unfold Operation.Succeeds at fails
  generalize operation.run store = outcome at ends fails ⊢
  cases ends with
  | done makes allowed kept => exact absurd rfl fails
  | refused failure expected => rfl
  | dangling seeds missing failure => rfl
  | unwritten error kept => rfl

/-- An operation that succeeds carries out what it makes, once the file that it asks for is there,
and then removes the file that it leaves behind. -/
theorem outcome_of_success {store : Store} {operation : Operation}
    (sound : store.database.IsSound) (succeeds : operation.Succeeds store) :
    ∃ changes media, operation.Makes store changes ∧ Change.AreAllowed store.database changes ∧
      store.media.keep (operation.file store) = (.ok (), media) ∧
      (operation.run store).2 =
        removeFile ⟨Change.applyAll store.database changes, media⟩ (operation.abandoned store) := by
  have ends := operation.run_ends sound
  unfold Operation.Succeeds at succeeds
  generalize operation.run store = outcome at ends succeeds ⊢
  cases ends with
  | done makes allowed kept => exact ⟨_, _, makes, allowed, kept, rfl⟩
  | refused failure expected => cases succeeds
  | dangling seeds missing failure => cases succeeds
  | unwritten error kept => cases succeeds

theorem changes_of_success {store : Store} {operation : Operation}
    (sound : store.database.IsSound) (succeeds : operation.Succeeds store) :
    ∃ changes, operation.Makes store changes ∧ Change.AreAllowed store.database changes ∧
      (operation.run store).2.database = Change.applyAll store.database changes := by
  obtain ⟨changes, media, makes, allowed, _, result⟩ := outcome_of_success sound succeeds
  refine ⟨changes, makes, allowed, ?_⟩
  rw [result]
  exact database_remove_file _ _

theorem run_is_sound {store : Store} (sound : store.database.IsSound) (operation : Operation) :
    (operation.run store).2.database.IsSound := by
  by_cases succeeds : operation.Succeeds store
  · obtain ⟨changes, _, allowed, result⟩ := changes_of_success sound succeeds
    rw [result]
    exact sound.apply_all allowed
  · rw [database_of_failure sound succeeds]
    exact sound

theorem after_is_sound {store : Store} (sound : store.database.IsSound)
    (operations : List Operation) : (store.after operations).database.IsSound := by
  induction operations generalizing store with
  | nil => exact sound
  | cons operation rest induction => exact induction (run_is_sound sound operation)

theorem reachable_is_sound (operations : List Operation) :
    (empty.after operations).database.IsSound :=
  after_is_sound Database.empty_is_sound operations

/-- A property that the operations of a run break under a condition, and only under it, holds all
through the run exactly when none of them meets the condition. -/
theorem kept_throughout_iff {property : Store → Prop} {breaks : Store → Operation → Prop}
    {operations : List Operation} (initially : property empty)
    (step : ∀ before operation, before ++ [operation] <+: operations →
      property (empty.after before) →
        (property (operation.run (empty.after before)).2 ↔
          ¬ breaks (empty.after before) operation)) :
    (∀ before, before <+: operations → property (empty.after before)) ↔
      ∀ before operation, before ++ [operation] <+: operations →
        ¬ breaks (empty.after before) operation := by
  have last (before : List Operation) (operation : Operation) :
      empty.after (before ++ [operation]) = (operation.run (empty.after before)).2 :=
    after_append _ _ _
  constructor
  · intro holds before operation taken
    have earlier := holds before ((List.prefix_append before [operation]).trans taken)
    have later := holds (before ++ [operation]) taken
    rw [last] at later
    exact (step before operation taken earlier).1 later
  · intro spared before
    induction before using List.reverseRecOn with
    | nil =>
        intro _
        exact initially
    | append_singleton before operation induction =>
        intro taken
        have earlier := induction ((List.prefix_append before [operation]).trans taken)
        rw [last]
        exact (step before operation taken earlier).2 (spared before operation taken)

/-- The same for a property of the database, where the condition is known for sound databases. -/
theorem holds_throughout_iff {property : Database → Prop} {breaks : Store → Operation → Prop}
    (initially : property Database.empty)
    (step : ∀ (store : Store) (operation : Operation), store.database.IsSound →
      property store.database →
        (property (operation.run store).2.database ↔ ¬ breaks store operation))
    (operations : List Operation) :
    (∀ before, before <+: operations → property (empty.after before).database) ↔
      ∀ before operation, before ++ [operation] <+: operations →
        ¬ breaks (empty.after before) operation :=
  @kept_throughout_iff (fun store => property store.database) breaks operations initially
    fun before operation _ holds => step _ operation (reachable_is_sound before) holds

/-- Whatever operations are carried out, in whatever order and with whatever success, no two rows of
one kind have one designation. -/
theorem keys_unique_in_every_run (operations : List Operation) :
    (empty.after operations).database.HasUniqueKeys :=
  (reachable_is_sound operations).keys

end Store

/-! ## A small catalogue -/

namespace SmallCatalogue

def part : Part where
  pk := 0
  name := "Bolt"
  ipn := ""
  revision := ""
  description := ""
  image := none
  units := ""
  active := true
  assembly := false
  purchaseable := true
  salable := false
  trackable := false
  isVirtual := false

def noChanges : CompanyChanges where
  name := none
  description := none
  website := none
  phone := none
  address := none
  email := none
  currency := none
  contact := none
  link := none
  isCustomer := none
  isSupplier := none
  isManufacturer := none
  notes := none
  remoteImage := none
  clearImage := false

def company : CompanyChanges :=
  { noChanges with name := some "Acme", currency := some "USD", isManufacturer := some true }

def manufacturerPart : ManufacturerPartChanges := ⟨some 1, some 1, some (some "B-1"), none, none⟩

def supplierPart : SupplierPartInput where
  changes := ⟨some 1, some 1, some (some 1), some "S-1", none, none, none, none, none⟩
  available := none
  manufacturerLink := none

/-- Two parts and a company that makes and supplies the first of them. -/
def setUp : List Operation :=
  [.addPart part, .addPart part, .createCompany company none,
    .createManufacturerPart manufacturerPart, .createSupplierPart supplierPart ⟨0, 0⟩]

end SmallCatalogue

end SupplyCatalog
