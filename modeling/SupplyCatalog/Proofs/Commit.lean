import SupplyCatalog.Proofs.SupplierDraft

/-!
# Committing drafts

A write is carried out as a whole or not at all. It is left undone when it is refused, for which its
client is told the reason, and when the file that goes with it cannot be written; nothing else keeps
the draft of a sound database from taking effect.
-/

namespace SupplyCatalog

def MediaTree.keep (tree : MediaTree) :
    Option (String × Bytes) → Except MediaError Unit × MediaTree
  | none => (.ok (), tree)
  | some (path, content) => tree.write (MediaPath.ofText path) content

namespace Store

variable {α : Type} {store : Store}

/-- What may come of a write that asks for changes, for a file to be kept and for an answer. -/
inductive Writes (store : Store) (asks : List Change → Option (String × Bytes) → α → Prop) :
    Except ServiceError α × Store → Prop
  | done {changes : List Change} {file : Option (String × Bytes)} {media : MediaTree} {answer : α}
      (asked : asks changes file answer) (allowed : Change.AreAllowed store.database changes)
      (kept : store.media.keep file = (.ok (), media)) :
      Writes store asks (.ok answer, ⟨Change.applyAll store.database changes, media⟩)
  | refused (failure : ServiceError) (expected : failure.status ≠ 500) :
      Writes store asks (.error failure, store)
  | unwritten {changes : List Change} {file : Option (String × Bytes)} {media : MediaTree}
      {answer : α} (error : MediaError) (asked : asks changes file answer)
      (kept : store.media.keep file = (.error error, media)) :
      Writes store asks (.error (.internal error.message), { store with media })

theorem staged_write_eq (tree : MediaTree) (path : String) (content : Bytes) :
    StagedFile.write tree path content =
      match tree.keep (some (path, content)) with
      | (.ok (), after) =>
          (.ok ⟨MediaPath.ofText path, !tree.hasEntry (MediaPath.ofText path)⟩, after)
      | (.error failure, after) => (.error failure, after) := rfl

theorem commit_writes {asks : List Change → Option (String × Bytes) → α → Prop} {draft : Draft α}
    {changes : List Change} {file : Option (String × Bytes)}
    (asked : ∀ answer, draft.answer = .ok answer → asks changes file answer)
    (carries : draft.CarriesOut store.database changes file) :
    store.Writes asks (store.commit draft) := by
  rcases carries with ⟨allowed, result, rfl, answer, answered⟩
  have asked := asked answer answered
  unfold commit
  cases given : draft.file with
  | none =>
      simp only [answered, result]
      exact .done (given ▸ asked) allowed rfl
  | some file =>
      rcases file with ⟨path, content⟩
      rw [given] at asked
      simp only [staged_write_eq]
      cases kept : store.media.keep (some (path, content)) with
      | mk outcome after =>
          cases outcome with
          | ok _ =>
              simp only [answered, result]
              exact .done asked allowed kept
          | error error => exact .unwritten error asked kept

theorem write_writes {asks : List Change → Option (String × Bytes) → α → Prop}
    {drafted : Except ServiceError (Draft α)}
    (yields : Yields drafted fun draft => ∃ changes file,
      (∀ answer, draft.answer = .ok answer → asks changes file answer) ∧
        draft.CarriesOut store.database changes file) :
    store.Writes asks (store.write drafted) := by
  cases drafted with
  | error failure => exact .refused failure yields
  | ok draft =>
      rcases yields with ⟨changes, file, asked, carries⟩
      exact commit_writes asked carries

/-- A write that succeeds has been drafted, and answers what its draft does. -/
theorem drafted_of_written {drafted : Except ServiceError (Draft α)} {answer : α} {after : Store}
    (written : store.write drafted = (.ok answer, after)) :
    ∃ draft, drafted = .ok draft ∧ draft.answer = .ok answer ∧
      after.database = draft.database := by
  cases drafted with
  | error failure => cases written
  | ok draft =>
      refine ⟨draft, rfl, ?_⟩
      change store.commit draft = (.ok answer, after) at written
      unfold commit at written
      split at written
      · split at written
        · cases written
          exact ⟨‹_›, rfl⟩
        · cases written
      · split at written
        · cases written
        · split at written
          · cases written
            exact ⟨‹_›, rfl⟩
          · cases written

end Store

end SupplyCatalog
