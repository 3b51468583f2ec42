import SupplyCatalog.Attachment
import SupplyCatalog.Sql.Statement

/-!
# Statements on attachments

Attachments of companies and of manufacturer parts lie in two tables that differ in their names and
in the name of the column that holds the owner.
-/

namespace SupplyCatalog.Sql.AttachmentTable

def table : AttachmentKind → String
  | .company => "company_attachments"
  | .manufacturerPart => "manufacturer_part_attachments"

def ownerColumn : AttachmentKind → String
  | .company => "company_id"
  | .manufacturerPart => "manufacturer_part_id"

def selectWhere (kind : AttachmentKind) (conditions : List Condition) (order : List Order) :
    Statement :=
  .select
    ((["id", ownerColumn kind, "attachment", "link", "comment", "upload_date", "user_id"]).map
      fun name => .column (bareColumn name))
    (some (table kind)) conditions order

def get (kind : AttachmentKind) (pk : Int) : Statement := selectWhere kind [hasBareKey pk] []

def list (kind : AttachmentKind) (owner : Option Int) : Statement :=
  selectWhere kind
    (optional owner fun owner => hasValue (bareColumn (ownerColumn kind)) (.ofKey owner))
    [.ascending (bareColumn "id")]

def insert (row : Attachment) : Statement :=
  .insert (table row.owner.kind)
    [(ownerColumn row.owner.kind, .ofKey row.owner.pk), ("attachment", .text row.path),
      ("link", .ofText row.link), ("comment", .ofText row.comment),
      ("upload_date", .ofText row.uploadDate.toText), ("user_id", .int64 row.user)]

def setFile (kind : AttachmentKind) (pk : Int) (path : String) : Statement :=
  .update (table kind) [("attachment", .ofText path)] [hasBareKey pk]

def delete (kind : AttachmentKind) (pk : Int) : Statement :=
  .delete (table kind) [hasBareKey pk]

end SupplyCatalog.Sql.AttachmentTable
