import Mathlib.Data.List.Basic
import Mathlib.Data.List.TakeDrop
import SupplyCatalog.Proofs.Calendar
import SupplyCatalog.Proofs.Digits
import SupplyCatalog.Time.Instant

/-!
# Texts of dates and instants

A date whose year has four digits reads back from its text, and so does an instant of such a year.
-/

namespace SupplyCatalog

namespace Date

/-- A date of the calendar whose year has four digits. -/
structure IsWritable (date : Date) : Prop where
  valid : date.isValid = true
  begun : 0 ≤ date.year
  ended : date.year ≤ 9999

theorem length_of_padded {width number : Nat} (positive : 0 < width) (fits : number < 10 ^ width) :
    (padded width number).length = width :=
  Number.length_of_filled positive fits

theorem read_digits_padded (width number : Nat) :
    Number.readDigits? (padded width number) = some number :=
  Number.read_digits_filled _ number

theorem read_two_padded {number : Nat} (fits : number < 100) (rest : List Char) :
    readTwo? (padded 2 number ++ rest) = some (number, rest) := by
  have read := read_digits_padded 2 number
  have two : (padded 2 number).length = 2 := length_of_padded (by decide) fits
  obtain ⟨a, b, digits⟩ := List.length_eq_two.1 two
  rw [digits] at read ⊢
  simp [readTwo?, read]

theorem read_chars_to_chars {date : Date} (writable : date.IsWritable) (rest : List Char) :
    readChars? (date.toChars ++ rest) = some (date, rest) := by
  rcases writable with ⟨valid, begun, ended⟩
  have bounds := valid
  simp only [isValid, Bool.and_eq_true, decide_eq_true_eq] at bounds
  rcases bounds with ⟨⟨⟨_, lastMonth⟩, _⟩, lastDay⟩
  have longest : daysInMonth date.year date.month ≤ 31 := by
    unfold daysInMonth
    repeat' split
    all_goals decide
  have year := read_digits_padded 4 date.year.toNat
  have four : (padded 4 date.year.toNat).length = 4 := length_of_padded (by decide) (by omega)
  have chars : date.toChars ++ rest = padded 4 date.year.toNat ++ '-' ::
      (padded 2 date.month ++ '-' :: (padded 2 date.day ++ rest)) := by
    simp [toChars, yearChars, begun, ended]
  obtain ⟨a, b, c, d, digits⟩ := List.length_eq_four.1 four
  rw [chars]
  rw [digits] at year ⊢
  simp [readChars?, year, read_two_padded (show date.month < 100 by omega),
    read_two_padded (show date.day < 100 by omega), Int.max_eq_left begun, valid]

theorem read_to_text {date : Date} (writable : date.IsWritable) :
    read? date.toText = some date := by
  have chars := read_chars_to_chars writable []
  rw [List.append_nil] at chars
  rw [read?, toText, String.toList_ofList, chars]

end Date

namespace Instant

/-- An instant within a second that is no leap second, of a year that has four digits. -/
structure IsWritable (instant : Instant) : Prop where
  nanos : instant.nanos < 1000000000
  begun : 0 ≤ (Date.ofDays (instant.seconds / secondsPerDay)).year
  ended : (Date.ofDays (instant.seconds / secondsPerDay)).year ≤ 9999

theorem read_clock {second nanos : Nat} (day : second < 86400) (noLeap : nanos < 1000000000)
    (rest : List Char) :
    readClock? (clockChars second nanos ++ rest) =
      some (second, 0, fractionChars nanos ++ rest) := by
  have leap : nanos / 1000000000 = 0 := Nat.div_eq_of_lt noLeap
  have whole : nanos % 1000000000 = nanos := Nat.mod_eq_of_lt noLeap
  have chars : clockChars second nanos ++ rest = Date.padded 2 (second / 3600) ++ ':' ::
      (Date.padded 2 (second / 60 % 60) ++ ':' ::
        (Date.padded 2 (second % 60) ++ (fractionChars nanos ++ rest))) := by
    simp [clockChars, leap, whole]
  have hour : second / 3600 ≤ 23 := by omega
  have minute : second / 60 % 60 ≤ 59 := by omega
  have sixty : second % 60 ≤ 60 := by omega
  have usual : ¬ second % 60 = 60 := by omega
  have parts : second / 3600 * 3600 + second / 60 % 60 * 60 + second % 60 = second := by omega
  rw [chars]
  simp [readClock?, Date.read_two_padded (show second / 3600 < 100 by omega),
    Date.read_two_padded (show second / 60 % 60 < 100 by omega),
    Date.read_two_padded (show second % 60 < 100 by omega), hour, minute, sixty, usual, parts]

/-- Digits after a point, as far as the sign of an offset. -/
theorem read_nanos_digits {width number : Nat} (positive : 0 < width) (most : width ≤ 9)
    (fits : number < 10 ^ width) (rest : List Char) :
    readNanos? ('.' :: (Date.padded width number ++ '+' :: rest)) =
      some (number * 10 ^ (9 - width), '+' :: rest) := by
  have digits : ∀ c ∈ Date.padded width number, Text.isDigit c = true := by
    intro c member
    exact Number.is_digit_of_mem_filled member
  have length := Date.length_of_padded positive fits
  have value : Number.ofDigits (Date.padded width number) = number :=
    Number.of_digits_filled _ number
  have split : (Date.padded width number ++ '+' :: rest).span Text.isDigit =
      (Date.padded width number, '+' :: rest) := by
    rw [List.span_eq_takeWhile_dropWhile, List.takeWhile_append_of_pos digits,
      List.dropWhile_append_of_pos digits]
    simp [Text.isDigit]
  have kept : (Date.padded width number).take 9 = Date.padded width number :=
    List.take_of_length_le (by omega)
  cases chars : Date.padded width number with
  | nil =>
      rw [chars] at length
      exact absurd length (by simp; omega)
  | cons first others =>
      rw [chars] at split kept length value
      unfold readNanos?
      simp only [split, kept, length, value]
      rfl

theorem read_fraction {nanos : Nat} (fits : nanos < 1000000000) (rest : List Char) :
    readNanos? (fractionChars nanos ++ '+' :: rest) = some (nanos, '+' :: rest) := by
  unfold fractionChars
  by_cases none : nanos = 0
  · rw [if_pos none, none]
    rfl
  · rw [if_neg none]
    by_cases milli : nanos % 1000000 = 0
    · rw [if_pos milli, List.cons_append, read_nanos_digits (by decide) (by decide) (by omega)]
      have value : nanos / 1000000 * 10 ^ (9 - 3) = nanos := by omega
      rw [value]
    · rw [if_neg milli]
      by_cases micro : nanos % 1000 = 0
      · rw [if_pos micro, List.cons_append, read_nanos_digits (by decide) (by decide) (by omega)]
        have value : nanos / 1000 * 10 ^ (9 - 6) = nanos := by omega
        rw [value]
      · rw [if_neg micro, List.cons_append, read_nanos_digits (by decide) (by decide) fits]
        simp

theorem read_to_offset_text {instant : Instant} (writable : instant.IsWritable) :
    read? instant.toOffsetText = some instant := by
  rcases writable with ⟨nanos, begun, ended⟩
  have date : (Date.ofDays (instant.seconds / secondsPerDay)).IsWritable :=
    ⟨Date.is_valid_of_days _, begun, ended⟩
  have day : (instant.seconds % secondsPerDay).toNat < 86400 := by
    unfold secondsPerDay
    omega
  have chars : instant.toOffsetText.toList =
      (Date.ofDays (instant.seconds / secondsPerDay)).toChars ++ 'T' ::
        (clockChars (instant.seconds % secondsPerDay).toNat instant.nanos ++
          '+' :: ['0', '0', ':', '0', '0']) := by
    simp [toOffsetText, toChars]
  have offset : readOffset? ('+' :: ['0', '0', ':', '0', '0']) = some 0 := by rfl
  have total : instant.seconds / secondsPerDay * secondsPerDay +
      max (instant.seconds % secondsPerDay) 0 = instant.seconds := by
    unfold secondsPerDay
    omega
  rw [read?, chars, Date.read_chars_to_chars date]
  simp [read_clock day nanos, read_fraction nanos, offset, Date.to_days_of_days, total]

end Instant

end SupplyCatalog
