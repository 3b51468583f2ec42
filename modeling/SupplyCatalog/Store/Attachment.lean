import SupplyCatalog.Payload.Attachment
import SupplyCatalog.Store.Reading

/-!
# Writing attachments

An attachment belongs to a company or a manufacturer part that exists. Its file, if it has one, is
kept in the directory of the owner under a name that is free, and goes when the attachment is
deleted.
-/

namespace SupplyCatalog

namespace Database

def ownerViolations (database : Database) (owner : AttachmentOwner) : List Violation :=
  match owner with
  | .company pk => Violation.of (database.companies.referred owner.field pk)
  | .manufacturerPart pk => Violation.of (database.manufacturerParts.referred owner.field pk)

/-- The draft for an attachment whose file, if any, goes to a path that is free. -/
def draftNewAttachment (database : Database) (owner : AttachmentOwner) (input : AttachmentInput)
    (path : String → String) (today : Date) : Except ServiceError (Draft Attachment) := do
  ServiceError.check (database.ownerViolations owner)
  let file := input.file.map fun file => (path (owner.storagePath file.name), file.content)
  let row : Attachment :=
    { pk := 0, owner, path := file.map (·.1), link := input.link, comment := input.comment,
      uploadDate := today, user := none }
  let (saved, table) ←
    Attachment.clauses.insert database (database.attachments owner.kind) "insert attachment" row
  return ⟨database.setAttachments owner.kind table, file, .ok saved⟩

end Database

namespace Store

def createAttachment (store : Store) (kind : AttachmentKind) (input : AttachmentInput)
    (today : Date) : Except ServiceError Attachment × Store :=
  store.write
    (store.database.draftNewAttachment (kind.owner input.owner) input store.media.freePath today)

/-- Removes an attachment together with its file. -/
def deleteAttachment (store : Store) (kind : AttachmentKind) (pk : Int) :
    Except ServiceError Unit × Store :=
  let table := store.database.attachments kind
  match table.wanted "attachment" pk with
  | .error failure => (.error failure, store)
  | .ok row =>
      let store :=
        { store with database := store.database.setAttachments kind (table.erase pk) }
      (.ok (), store.removeFile row.path)

end Store

end SupplyCatalog
