import Mathlib.Algebra.Group.Nat.Defs
import SupplyCatalog.Number.Integer

/-!
# Runs of digits

A number is written in digits, and zeros in front of them change neither that nor the number that is
read from them. A number of 64 bits is read from digits with or without a sign, and takes up little
room as a text.
-/

namespace SupplyCatalog.Number

theorem is_digit_of_mem_to_digits {number : Nat} {c : Char} (member : c ∈ Nat.toDigits 10 number) :
    Text.isDigit c = true := by
  have digit := Nat.isDigit_of_mem_toDigits (by decide) (by decide) member
  simp only [Char.isDigit, ge_iff_le, Bool.and_eq_true, decide_eq_true_eq] at digit
  simp only [Text.isDigit, Bool.and_eq_true, decide_eq_true_eq]
  exact digit

/-- A whole number is written in digits, with a hyphen before them when it is negative. -/
theorem mem_whole {number : Int} {c : Char} (member : c ∈ (toString number).toList) :
    c = '-' ∨ Text.isDigit c = true := by
  have digit {number : Nat} (member : c ∈ number.repr.toList) : Text.isDigit c = true := by
    rw [Nat.toList_repr] at member
    exact is_digit_of_mem_to_digits member
  rw [Int.toString_eq_repr, Int.repr_eq_if] at member
  split at member
  · exact .inr (digit member)
  · rw [String.toList_append, List.mem_append] at member
    rcases member with hyphen | later
    · exact .inl (List.mem_singleton.1 hyphen)
    · exact .inr (digit later)

theorem eq_of_to_digits_eq {left right : Nat}
    (same : Nat.toDigits 10 left = Nat.toDigits 10 right) : left = right := by
  have numbers := congrArg (fun digits => Nat.ofDigitChars 10 digits 0) same
  simpa using numbers

def filled (zeros number : Nat) : List Char :=
  List.replicate zeros '0' ++ Nat.toDigits 10 number

theorem is_digit_of_mem_filled {zeros number : Nat} {c : Char} (member : c ∈ filled zeros number) :
    Text.isDigit c = true := by
  rcases List.mem_append.1 member with zero | digit
  · rw [List.eq_of_mem_replicate zero]
    rfl
  · exact is_digit_of_mem_to_digits digit

theorem value_of_filled (zeros number : Nat) :
    Nat.ofDigitChars 10 (filled zeros number) 0 = number := by
  simp [filled, Nat.ofDigitChars_append]

theorem of_digits_filled (zeros number : Nat) : ofDigits (filled zeros number) = number :=
  value_of_filled zeros number

theorem read_digits_filled (zeros number : Nat) :
    readDigits? (filled zeros number) = some number := by
  have some : (filled zeros number).isEmpty = false := by
    simp [filled, Nat.toDigits_ne_nil]
  have digits : (filled zeros number).all Text.isDigit = true := by
    rw [List.all_eq_true]
    intro c member
    exact is_digit_of_mem_filled member
  simp [readDigits?, some, digits, of_digits_filled]

/-- As many zeros as bring a number to a given width. -/
theorem length_of_filled {width number : Nat} (positive : 0 < width) (fits : number < 10 ^ width) :
    (filled (width - (Nat.toDigits 10 number).length) number).length = width := by
  have short := (Nat.length_toDigits_le_iff (by decide) positive).2 fits
  simp only [filled, List.length_append, List.length_replicate]
  omega

/-! ## Numbers of 64 bits -/

/-- Digits with or without a sign, and the number they stand for. -/
inductive IsSigned (digits : List Char) : List Char → Int → Prop
  | plain : IsSigned digits digits (ofDigits digits)
  | plus : IsSigned digits ('+' :: digits) (ofDigits digits)
  | minus : IsSigned digits ('-' :: digits) (-ofDigits digits)

def IsInt64Text (chars : List Char) (number : Int) : Prop :=
  ∃ digits, digits ≠ [] ∧ (∀ c ∈ digits, Text.isDigit c = true) ∧ IsSigned digits chars number ∧
    fitsInt64 number = true

theorem read_digits_eq_some_iff (digits : List Char) (number : Nat) :
    readDigits? digits = some number ↔
      digits ≠ [] ∧ (∀ c ∈ digits, Text.isDigit c = true) ∧ ofDigits digits = number := by
  unfold readDigits?
  rw [Option.ite_none_left_eq_some, Option.some.injEq, Bool.or_eq_true, not_or,
    Bool.not_eq_true', Bool.not_eq_false, List.isEmpty_iff, List.all_eq_true, and_assoc]

theorem read_int64_eq_some_iff (chars : List Char) (number : Int) :
    readInt64? chars = some number ↔ IsInt64Text chars number := by
  unfold readInt64?
  constructor
  · intro read
    split at read
    all_goals
      simp only [Option.bind_eq_bind, Option.map_bind, Option.bind_eq_some_iff,
        Option.map_eq_some_iff, read_digits_eq_some_iff, Option.ite_none_right_eq_some] at read
      obtain ⟨_, ⟨_, ⟨some, proper, rfl⟩, same⟩, fits, result⟩ := read
      cases same
      cases result
    · exact ⟨_, some, proper, .minus, fits⟩
    · exact ⟨_, some, proper, .plus, fits⟩
    · exact ⟨_, some, proper, .plain, fits⟩
  · rintro ⟨digits, some, proper, signed, fits⟩
    have read := (read_digits_eq_some_iff digits _).2 ⟨some, proper, rfl⟩
    cases signed with
    | plus => simp [read, fits]
    | minus => simp [read, fits]
    | plain =>
        -- A digit is no sign.
        split
        · exact absurd (proper '-' List.mem_cons_self) (by decide)
        · exact absurd (proper '+' List.mem_cons_self) (by decide)
        · simp [read, fits]

/-- A number of 64 bits is written in a few characters. -/
theorem length_of_whole {number : Int} (word : fitsInt64 number = true) :
    (toString number).toList.length ≤ 20 := by
  have bounds : leastInt64 ≤ number ∧ number ≤ greatestInt64 := by simpa [fitsInt64] using word
  have size : number.natAbs < 10 ^ 19 := by
    unfold leastInt64 greatestInt64 at bounds
    omega
  have digits : number.natAbs.repr.toList.length ≤ 19 := by
    rw [Nat.toList_repr]
    exact (Nat.length_toDigits_le_iff (by decide) (by decide)).2 size
  rw [Int.toString_eq_repr, Int.repr_eq_if]
  split
  · have same : number.toNat = number.natAbs := by omega
    rw [same]
    omega
  · have same : (-number).toNat = number.natAbs := by omega
    rw [same, String.toList_append, List.length_append]
    exact Nat.add_le_add (by decide : "-".toList.length ≤ 1) digits

end SupplyCatalog.Number
