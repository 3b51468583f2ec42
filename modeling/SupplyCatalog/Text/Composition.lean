import SupplyCatalog.Text.CanonicalSpelling
import SupplyCatalog.Text.CombiningClass
import SupplyCatalog.Text.HangulSyllable

/-!
# Composed text

Texts that look the same may be written with different characters: a letter with an accent is one
character, or a letter and a mark behind it, and marks that do not touch may stand in any order.
`composed` brings a text to the one form that has as few characters as possible: every character is
spelled out, the marks behind each letter are put into order, and then letters and marks are joined.
-/

namespace SupplyCatalog.Text

def spelledOut (c : Char) : List Char :=
  if c.toNat < 0xC0 then [c]
  else
    match HangulSyllable.letters? c with
    | some letters => letters
    | none =>
        ((wordOf? composedRuns c.toNat).orElse fun _ => wordOf? replacedRuns c.toNat).getD [c]

/-- Puts a character in front of an ordered text. A mark goes behind those of a lower class. -/
def insertMark (c : Char) : List Char → List Char
  | [] => [c]
  | other :: rest =>
      if combiningClass other ≠ 0 ∧ combiningClass other < combiningClass c then
        other :: insertMark c rest
      else c :: other :: rest

/-- Orders the marks between any two letters by their classes. -/
def ordered (chars : List Char) : List Char := chars.foldr insertMark []

def composedSpellings : List (List Char × Char) :=
  composedRuns.flatMap fun run =>
    run.entries.map fun (code, word) => (word, Char.ofNat code)

def join? (letter c : Char) : Option Char :=
  if c.toNat < 0x300 then none
  else
    match HangulSyllable.join? letter c with
    | some syllable => some syllable
    | none =>
        let spelling := spelledOut letter ++ [c]
        (composedSpellings.find? fun entry => entry.1 == spelling).map (·.2)

/-- Joins what can be joined to a letter. The marks that were passed stay behind it, and the last
of them, the one of the highest class, decides whether a later mark can still reach the letter. -/
def joinFrom (letter : Char) (passed : List Char) (highest : Nat) : List Char → List Char
  | [] => letter :: passed
  | c :: rest =>
      match if passed.isEmpty || highest < combiningClass c then join? letter c else none with
      | some joined => joinFrom joined passed highest rest
      | none =>
          if combiningClass c = 0 then letter :: passed ++ joinFrom c [] 0 rest
          else joinFrom letter (passed ++ [c]) (combiningClass c) rest

def joined (chars : List Char) : List Char :=
  match chars.span fun c => combiningClass c != 0 with
  | (marks, letter :: rest) => marks ++ joinFrom letter [] 0 rest
  | (marks, []) => marks

def composed (chars : List Char) : List Char := joined (ordered (chars.flatMap spelledOut))

end SupplyCatalog.Text
