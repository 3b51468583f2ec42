import SupplyCatalog.Attachment
import SupplyCatalog.Image
import SupplyCatalog.Payload.Basic

/-!
# Attachment payloads

An attachment needs a file or a link. A file is given by its name and its content together; either
of the two alone is an error on the other.
-/

namespace SupplyCatalog

structure UploadedFile where
  name : String
  content : Bytes
deriving DecidableEq

structure AttachmentInput where
  owner : Int
  link : String
  comment : String
  file : Option UploadedFile
deriving DecidableEq

namespace AttachmentInput

/-- Whether a field holds anything but null. -/
def isPresent : Option Json → Bool
  | none => false
  | some .null => false
  | some _ => true

def fileName (value : Json) : Checked String :=
  Attachment.checkFileName (value.string?.getD "")

def readFile (payload : Payload) : Noted (Option UploadedFile) :=
  if isPresent (payload.raw "filename") || isPresent (payload.raw "content") then do
    let name ← payload.field "filename" true fileName
    let content ← payload.field "content" true Value.fileContent
    return match name, content with
      | some name, some content => some ⟨name, content⟩
      | _, _ => none
  else pure none

def readFields (ownerField : String) (payload : Payload) : Noted AttachmentInput := do
  let owner ← payload.pk ownerField true
  let link ← payload.link "link" 2000
  let comment ← payload.text "comment" 100
  let file ← readFile payload
  return { owner := owner.getD 0, link := link.getD "", comment := comment.getD "", file }

def nothingAttached : List Violation :=
  [⟨"attachment", .rule "Missing file"⟩, ⟨"link", .rule "Missing external link"⟩]

/-- When every field is right by itself, there still has to be a file or a link. -/
def read (ownerField : String) (payload : Payload) : Noted AttachmentInput :=
  let noted := readFields ownerField payload
  if noted.violations.isEmpty && noted.value.file.isNone && noted.value.link = "" then
    ⟨noted.value, nothingAttached⟩
  else noted

def parse (ownerField : String) (body : Json) : Except ServiceError AttachmentInput := do
  (read ownerField (← Payload.ofJson body false)).finish

end AttachmentInput

end SupplyCatalog
