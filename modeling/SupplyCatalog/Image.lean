/-!
# Images

The format of an image is told by the bytes it begins with.
-/

namespace SupplyCatalog

abbrev Bytes := List UInt8

inductive ImageFormat
  | png
  | jpeg
  | gif
  | webp
  | bmp
  | tiff
deriving DecidableEq

namespace ImageFormat

def pngSignature : Bytes := [0x89, 0x50, 0x4E, 0x47, 0x0D, 0x0A, 0x1A, 0x0A]

def jpegSignature : Bytes := [0xFF, 0xD8, 0xFF]

def gifSignatures : List Bytes :=
  [[0x47, 0x49, 0x46, 0x38, 0x37, 0x61], [0x47, 0x49, 0x46, 0x38, 0x39, 0x61]]

/-- The first four bytes of the container format, and the four that stand after its length. -/
def webpSignature : Bytes × Bytes := ([0x52, 0x49, 0x46, 0x46], [0x57, 0x45, 0x42, 0x50])

def bmpSignature : Bytes := [0x42, 0x4D]

def tiffSignatures : List Bytes := [[0x49, 0x49, 0x2A, 0x00], [0x4D, 0x4D, 0x00, 0x2A]]

def ofBytes? (bytes : Bytes) : Option ImageFormat :=
  if pngSignature.isPrefixOf bytes then some png
  else if jpegSignature.isPrefixOf bytes then some jpeg
  else if gifSignatures.any fun signature => signature.isPrefixOf bytes then some gif
  else if webpSignature.1.isPrefixOf bytes && webpSignature.2.isPrefixOf (bytes.drop 8) then
    some webp
  else if bmpSignature.isPrefixOf bytes then some bmp
  else if tiffSignatures.any fun signature => signature.isPrefixOf bytes then some tiff
  else none

def name : ImageFormat → String
  | png => "PNG"
  | jpeg => "JPEG"
  | gif => "GIF"
  | webp => "WEBP"
  | bmp => "BMP"
  | tiff => "TIFF"

def fileExtension : ImageFormat → String
  | png => "png"
  | jpeg => "jpeg"
  | gif => "gif"
  | webp => "webp"
  | bmp => "bmp"
  | tiff => "tiff"

def mimeType (format : ImageFormat) : String := "image/" ++ format.fileExtension

end ImageFormat

structure CompanyImage where
  bytes : Bytes
deriving DecidableEq

namespace CompanyImage

def format? (image : CompanyImage) : Option ImageFormat := ImageFormat.ofBytes? image.bytes

/-- An image of no known format is kept as if it were PNG. -/
def format (image : CompanyImage) : ImageFormat := image.format?.getD .png

def fileName (pk : Int) (format : ImageFormat) : String :=
  s!"company_{pk}_image.{format.fileExtension}"

end CompanyImage

end SupplyCatalog
