import SupplyCatalog.Text.Composition
import SupplyCatalog.Url.DomainCharacter

/-!
# Text of domain names

The one way in which a domain name is written: every character is spelled out, its parts are
replaced by the characters a domain name is read with, and the result is composed.
-/

namespace SupplyCatalog.Url

def replaceAll? : List Char → Option (List Char)
  | [] => some []
  | c :: rest =>
      match domainCharacter c with
      | .kept => (replaceAll? rest).map (c :: ·)
      | .replaced text => (replaceAll? rest).map (text ++ ·)
      | .ignored => replaceAll? rest
      | .refused => none

/-- A text as a domain name is written, unless it has a character that is refused. -/
def domainText? (chars : List Char) : Option (List Char) :=
  (replaceAll? (chars.flatMap Text.spelledOut)).map Text.composed

end SupplyCatalog.Url
