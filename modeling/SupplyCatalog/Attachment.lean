import SupplyCatalog.Violation
import SupplyCatalog.Media.Address
import SupplyCatalog.Text.Split
import SupplyCatalog.Time.Date

/-!
# Attachments

A file or an external link that is kept with a company or a manufacturer part. Files of one owner
lie in a directory of their own.
-/

namespace SupplyCatalog

inductive AttachmentOwner
  | company (pk : Int)
  | manufacturerPart (pk : Int)
deriving DecidableEq

inductive AttachmentKind
  | company
  | manufacturerPart
deriving DecidableEq

namespace AttachmentKind

def owner (kind : AttachmentKind) (pk : Int) : AttachmentOwner :=
  match kind with
  | company => .company pk
  | manufacturerPart => .manufacturerPart pk

def ownerField : AttachmentKind → String
  | company => "company"
  | manufacturerPart => "manufacturer_part"

def directory : AttachmentKind → String
  | company => "company_files"
  | manufacturerPart => "manufacturer_part_files"

end AttachmentKind

namespace AttachmentOwner

def kind : AttachmentOwner → AttachmentKind
  | company _ => .company
  | manufacturerPart _ => .manufacturerPart

def pk : AttachmentOwner → Int
  | company pk => pk
  | manufacturerPart pk => pk

def field (owner : AttachmentOwner) : String := owner.kind.ownerField

def subdirectory (owner : AttachmentOwner) : String := s!"{owner.kind.directory}/{owner.pk}"

def directory (owner : AttachmentOwner) : String := "attachments/" ++ owner.subdirectory

def storagePath (owner : AttachmentOwner) (fileName : String) : String :=
  owner.directory ++ "/" ++ fileName

end AttachmentOwner

structure Attachment where
  pk : Int
  owner : AttachmentOwner
  /-- Path of the file below the media root. -/
  path : Option String
  link : String
  comment : String
  uploadDate : Date
  user : Option Int
deriving DecidableEq

namespace Attachment

def fileUrl (attachment : Attachment) : Option String := attachment.path.map Media.url

def lastComponent (path : String) : String :=
  match Text.splitLast? (· == '/') path.toList with
  | some (_, name) => String.ofList name
  | none => path

def fileName (attachment : Attachment) : Option String :=
  match attachment.path.map lastComponent with
  | some name => if name = "" then none else some name
  | none => none

/-- A name that stays inside a directory: not empty, not a dot or two, without separators or NUL. -/
def isFileName (name : String) : Bool :=
  name != "" && name != "." && name != ".." &&
    !name.toList.any fun c => c == '/' || c == '\\' || c == '\x00'

/-- The name without blanks around it, if it is fit to name a file. -/
def checkFileName (name : String) : Checked String :=
  let trimmed := Text.trim name
  if isFileName trimmed then .ok trimmed
  else .error (.rule "Invalid attachment file name")

end Attachment

end SupplyCatalog
