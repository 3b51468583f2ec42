import SupplyCatalog.Text.AsciiCase

/-!
# Patterns with wildcards

Whether a text matches a pattern as a whole, as `LIKE` tells it in SQL: a percent sign stands for
any run of characters, an underscore for any one character, and letters of ASCII match in either
case. Both texts end at their first NUL, and the two code points `U+FFFE` and `U+FFFF` count as the
replacement character.

`matchesChars` is the meaning of a pattern. It tries every run for every percent sign; `matchRow`
gives the same answers, for all suffixes of a text at once, in one pass over the pattern.
-/

namespace SupplyCatalog.Text

def manyMark : Char := '%'

def oneMark : Char := '_'

/-- What is left of a text after each number of its characters. -/
def suffixes {α : Type} : List α → List (List α)
  | [] => [[]]
  | item :: rest => (item :: rest) :: suffixes rest

def matchesChar (pattern c : Char) : Bool :=
  pattern == oneMark || lowerChar pattern == lowerChar c

def matchesChars : List Char → List Char → Bool
  | [], chars => chars.isEmpty
  | mark :: pattern, chars =>
      if mark = manyMark then (suffixes chars).any (matchesChars pattern)
      else
        match chars with
        | [] => false
        | c :: rest => matchesChar mark c && matchesChars pattern rest

/-- Turns answers for the suffixes of a text into answers for any suffix of each of them. -/
def anyFrom : List Bool → List Bool
  | [] => []
  | answer :: rest =>
      let later := anyFrom rest
      (answer || later.headD false) :: later

/-- The answers for a pattern behind one more character, from the answers for the pattern. -/
def advance (mark : Char) : List Char → List Bool → List Bool
  | [], _ => [false]
  | c :: chars, answers =>
      (matchesChar mark c && answers.tail.headD false) :: advance mark chars answers.tail

/-- Whether the pattern matches each suffix of the text, the longest first. -/
def matchRow (chars : List Char) : (pattern : List Char) → List Bool
  | [] => (suffixes chars).map List.isEmpty
  | mark :: pattern =>
      let answers := matchRow chars pattern
      if mark = manyMark then anyFrom answers else advance mark chars answers

theorem head_map_suffixes (test : List Char → Bool) (chars : List Char) :
    ((suffixes chars).map test).headD false = test chars := by
  cases chars <;> simp [suffixes]

theorem any_from_map_suffixes (test : List Char → Bool) (chars : List Char) :
    anyFrom ((suffixes chars).map test) =
      (suffixes chars).map fun rest => (suffixes rest).any test := by
  induction chars with
  | nil => simp [suffixes, anyFrom]
  | cons c chars induction =>
      simp only [suffixes, List.map_cons, anyFrom, induction, head_map_suffixes, List.any_cons]

theorem advance_map_suffixes (mark : Char) (plain : ¬mark = manyMark) (pattern chars : List Char) :
    advance mark chars ((suffixes chars).map (matchesChars pattern)) =
      (suffixes chars).map (matchesChars (mark :: pattern)) := by
  induction chars with
  | nil => simp [suffixes, advance, matchesChars, plain]
  | cons c chars induction =>
      simp only [suffixes, List.map_cons, advance, List.tail_cons, head_map_suffixes, induction]
      simp [matchesChars, plain]

theorem match_row_eq (chars pattern : List Char) :
    matchRow chars pattern = (suffixes chars).map (matchesChars pattern) := by
  induction pattern with
  | nil =>
      have same : matchesChars [] = List.isEmpty := by
        funext rest
        simp [matchesChars]
      rw [same, matchRow]
  | cons mark pattern induction =>
      rw [matchRow, induction]
      by_cases many : mark = manyMark
      · have same : matchesChars (mark :: pattern) =
            fun rest => (suffixes rest).any (matchesChars pattern) := by
          funext rest
          cases rest <;> simp [matchesChars, many]
        rw [same, if_pos many]
        exact any_from_map_suffixes (matchesChars pattern) chars
      · simp only [many, if_false]
        exact advance_map_suffixes mark many pattern chars

def comparable (c : Char) : Char :=
  if c.toNat = 0xFFFE ∨ c.toNat = 0xFFFF then '\uFFFD' else c

/-- The characters before the first NUL, as they are compared. -/
def comparableChars (text : String) : List Char :=
  (text.toList.takeWhile (· != '\x00')).map comparable

/-- Whether a text is like a pattern. A pattern is taken to be within the 50000 bytes that the
database matches; it refuses a longer one. -/
def isLike (pattern text : String) : Bool :=
  (matchRow (comparableChars text) (comparableChars pattern)).headD false

theorem is_like_eq (pattern text : String) :
    isLike pattern text = matchesChars (comparableChars pattern) (comparableChars text) := by
  rw [isLike, match_row_eq, head_map_suffixes]

end SupplyCatalog.Text
