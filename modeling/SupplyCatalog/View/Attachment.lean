import SupplyCatalog.Attachment
import SupplyCatalog.Json.Basic

/-!
# Views of attachments

The owner is shown under the field of its kind alone.
-/

namespace SupplyCatalog.View

def attachment (row : Attachment) : Json :=
  .object [("pk", .int row.pk), (row.owner.field, .int row.owner.pk),
    ("attachment", .optionalString row.fileUrl), ("filename", .optionalString row.fileName),
    ("link", .string row.link), ("comment", .string row.comment),
    ("upload_date", .string row.uploadDate.toText), ("user", .optionalInt row.user)]

end SupplyCatalog.View
