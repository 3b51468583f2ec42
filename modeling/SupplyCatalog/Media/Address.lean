/-!
# Addresses of media files

Where a stored file is served, and the picture that stands in for a missing one.
-/

namespace SupplyCatalog.Media

def rootUrl : String := "/media/"

def blankThumbnailUrl : String := "/static/img/blank_image.thumbnail.png"

/-- The public address of a path below the media root; slashes in front of the path are dropped. -/
def url (path : String) : String :=
  rootUrl ++ String.ofList (path.toList.dropWhile (· == '/'))

end SupplyCatalog.Media
