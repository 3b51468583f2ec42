import SupplyCatalog.Text.Split

/-!
# Tables by code point

A property of characters is given by runs of code points, in rising order: for a set the first and
the last member of each run, for a function the value besides, and for spellings the words of
successive code points.
-/

namespace SupplyCatalog.Text

def inRuns : (runs : List (Nat × Nat)) → (code : Nat) → Bool
  | [], _ => false
  | (first, last) :: rest, code =>
      if code < first then false else code ≤ last || inRuns rest code

def runValue? {α : Type} : (runs : List (Nat × Nat × α)) → (code : Nat) → Option α
  | [], _ => none
  | (first, last, value) :: rest, code =>
      if code < first then none
      else if code ≤ last then some value
      else runValue? rest code

/-- Words for code points that follow each other. -/
structure WordRun where
  first : Nat
  words : Array (List Char)

namespace WordRun

def ofText (first : Nat) (text : String) : WordRun :=
  ⟨first, (splitWhere (· == ' ') text.toList).toArray⟩

def entries (run : WordRun) : List (Nat × List Char) :=
  run.words.toList.zipIdx.map fun (word, index) => (run.first + index, word)

end WordRun

def wordOf? : (runs : List WordRun) → (code : Nat) → Option (List Char)
  | [], _ => none
  | run :: rest, code =>
      if code < run.first then none
      else
        match run.words[code - run.first]? with
        | some word => some word
        | none => wordOf? rest code

end SupplyCatalog.Text
