import SupplyCatalog.Text.Split
import SupplyCatalog.Url.PercentEncoding

/-!
# Form-encoded texts

Pairs of a name and a value, as they stand in the query of an address: pairs are divided by `&`,
name and value by the first `=`, a plus sign is a space, and bytes may be percent-encoded. Bytes
that are not UTF-8 are shown by the replacement character. A name alone has an empty value.
-/

namespace SupplyCatalog.Url

def ampersand : UInt8 := 0x26
def equalsSign : UInt8 := 0x3D
def plusSign : UInt8 := 0x2B
def space : UInt8 := 0x20

def formText (bytes : List UInt8) : String :=
  Text.decodeLossy (percentDecode (bytes.map fun byte => if byte = plusSign then space else byte))

def formPair (bytes : List UInt8) : String × String :=
  match Text.splitFirst? (· == equalsSign) bytes with
  | some (name, value) => (formText name, formText value)
  | none => (formText bytes, "")

/-- The pairs in their order; empty ones are skipped. -/
def formPairs (text : String) : List (String × String) :=
  let pairs := (Text.splitWhere (· == ampersand) (Text.utf8Bytes text)).filter (!·.isEmpty)
  pairs.map formPair

end SupplyCatalog.Url
