import SupplyCatalog.Media.Tree
import SupplyCatalog.Sql.Schema

/-!
# The store

The database together with the media files. Every write is drafted first: the database as it is to
be, at most one file that goes with it, and the answer, which is read from the new database. The
draft is then committed as a whole: the file is written, and the new database takes effect only when
both the file and the answer are there. A file that was written for nothing is taken back.
-/

namespace SupplyCatalog

structure Store where
  database : Database
  media : MediaTree

/-- A write that has passed all checks. -/
structure Draft (α : Type) where
  database : Database
  /-- Path and content of the file that goes with the write. -/
  file : Option (String × Bytes)
  answer : Except ServiceError α

namespace Store

def empty : Store := ⟨.empty, .empty⟩

/-- Carries out a draft, or leaves the database alone and says what went wrong. -/
def commit {α : Type} (store : Store) (draft : Draft α) : Except ServiceError α × Store :=
  match draft.file with
  | none =>
      match draft.answer with
      | .ok answer => (.ok answer, { store with database := draft.database })
      | .error failure => (.error failure, store)
  | some (path, content) =>
      match StagedFile.write store.media path content with
      | (.error failure, media) => (.error (.internal failure.message), { store with media })
      | (.ok staged, media) =>
          match draft.answer with
          | .ok answer => (.ok answer, ⟨draft.database, media⟩)
          | .error failure => (.error failure, { store with media := staged.discard media })

def write {α : Type} (store : Store) (drafted : Except ServiceError (Draft α)) :
    Except ServiceError α × Store :=
  match drafted with
  | .ok draft => store.commit draft
  | .error failure => (.error failure, store)

def removeFile (store : Store) : Option String → Store
  | some path => { store with media := store.media.remove path }
  | none => store

end Store

/-- Fails when there are violations, with all of them. -/
def ServiceError.check (violations : List Violation) : Except ServiceError Unit :=
  if violations.isEmpty then .ok ()
  else .error (.validation (FieldErrors.ofViolations violations))

/-- The violation of several fields together. -/
def Violation.notUnique (message : String) : Violation := ⟨"non_field_errors", .rule message⟩

end SupplyCatalog
