import SupplyCatalog.Text.Direction
import SupplyCatalog.Text.Joining
import SupplyCatalog.Url.DomainText
import SupplyCatalog.Url.Punycode

/-!
# Labels of domain names

What stands between the dots of a domain name, as it is read and as it is written in ASCII. A label
may not begin with a mark, may have joiners only where they change the look of letters, and in a
name with letters from right to left it has to run in one direction.
-/

namespace SupplyCatalog.Url.DomainLabel

/-- How a label begins that is written in ASCII for other characters. -/
def encodedMark : List Char := ['x', 'n', '-', '-']

def isAscii (c : Char) : Bool := c.toNat < 128

/-- The most characters that an encoded label may have behind its mark. -/
def greatestEncodedLength : Nat := 2000

/-- The most characters of a label that is not ASCII. -/
def greatestLength : Nat := 1000

/-- The characters that an encoded label stands for. There has to be one beyond ASCII among them,
and all of them have to be written as domain names are written. -/
def decoded? (label : List Char) : Option (List Char) :=
  if greatestEncodedLength < label.length then none
  else do
    let chars ← Punycode.decode? label
    if chars.all isAscii || domainText? chars != some chars then none else some chars

def meaning? (label : List Char) : Option (List Char) :=
  if encodedMark.isPrefixOf label then decoded? (label.drop encodedMark.length) else some label

/-! ## Joiners -/

def nonJoiner : Char := '\u200C'

def joiner : Char := '\u200D'

/-- Whether letters on both sides, marks aside, take part in a connection at this place. -/
def isConnection (before after : List Char) : Bool :=
  ((before.dropWhile Text.isTransparent).head?.any Text.joinsAfter) &&
    ((after.dropWhile Text.isTransparent).head?.any Text.joinsBefore)

/-- Whether a character may stand between the text before it, the nearest character first, and the
text after it. -/
def joinerFits (before : List Char) (c : Char) (after : List Char) : Bool :=
  if c == nonJoiner then before.head?.any Text.isVirama || isConnection before after
  else if c == joiner then before.head?.any Text.isVirama
  else true

def joinersFit (before : List Char) : List Char → Bool
  | [] => true
  | c :: rest => joinerFits before c rest && joinersFit (c :: before) rest

def isWellFormed (label : List Char) : Bool :=
  (label.all isAscii || label.length ≤ greatestLength) &&
    !label.head?.any Text.isMark && joinersFit [] label

/-! ## Direction -/

/-- Whether the label makes the name one with letters from right to left. -/
def isRightward (label : List Char) : Bool :=
  label.any fun c => Text.direction c == .rightToLeft || Text.direction c == .arabicNumber

def runsRight (directions last : List Text.Direction) : Bool :=
  directions.all ([.leftToRight, .europeanNumber, .neutral, .mark].contains ·) &&
    last.head?.any ([.leftToRight, .europeanNumber].contains ·)

/-- Whether the directions run from right to left, with digits of one kind only. -/
def runsLeft (directions last : List Text.Direction) : Bool :=
  directions.all (· != .leftToRight) &&
    !(directions.contains .europeanNumber && directions.contains .arabicNumber) &&
    last.head?.any ([.rightToLeft, .europeanNumber, .arabicNumber].contains ·)

/-- Whether a label in a name with letters from right to left has one direction: that of its first
character, which also the last one has, marks aside, unless it is a digit. -/
def hasOneDirection (label : List Char) : Bool :=
  let directions := label.map Text.direction
  let last := directions.reverse.dropWhile (· == .mark)
  match directions.head? with
  | none => true
  | some .leftToRight => runsRight directions last
  | some .rightToLeft => runsLeft directions last
  | some _ => false

/-! ## Writing -/

def toAscii (label : List Char) : List Char :=
  if label.all isAscii then label else encodedMark ++ Punycode.encode label

end SupplyCatalog.Url.DomainLabel
