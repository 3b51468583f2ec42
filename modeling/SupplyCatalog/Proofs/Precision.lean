import SupplyCatalog.Proofs.Decimal
import SupplyCatalog.Violation

/-!
# Digits and places

A number has so many digits and places if it can be written with no more of them. When there is such
a way to write it, its shortest form is one, so that a check which counts in the shortest form alone
decides about the number: it accepts what can be written within both bounds, and tells a number with
too many places from one that has too many digits.
-/

namespace SupplyCatalog

namespace Decimal

/-- The number can be written with so many digits, of which so many stand after the point. -/
def HasAtMost (digits places : Nat) (value : Decimal) : Prop :=
  ∃ coefficient : Int, ∃ scale ≤ places,
    coefficient.natAbs < 10 ^ digits ∧ value.toRat = coefficient / 10 ^ scale

/-- The number can be written with so many digits after the point. -/
def HasPlaces (places : Nat) (value : Decimal) : Prop :=
  ∃ coefficient : Int, ∃ scale ≤ places, value.toRat = coefficient / 10 ^ scale

theorem has_places_iff (places : Nat) (value : Decimal) :
    value.HasPlaces places ↔ value.normalize.scale ≤ places := by
  constructor
  · intro written
    rcases written with ⟨coefficient, scale, fits, same⟩
    exact (scale_normalize_le same).trans fits
  · intro few
    exact ⟨value.normalize.coefficient, value.normalize.scale, few, value.to_rat_normalize.symm⟩

/-- A number that can be written with few digits has few in shortest form, too. -/
theorem HasAtMost.shortest {digits places : Nat} {value : Decimal}
    (few : value.HasAtMost digits places) :
    value.normalize.scale ≤ places ∧ value.normalize.magnitude < 10 ^ digits := by
  obtain ⟨coefficient, scale, fits, small, same⟩ := few
  have noMore : value.normalize.scale ≤ scale := scale_normalize_le same
  refine ⟨noMore.trans fits, ?_⟩
  obtain ⟨further, rfl⟩ := Nat.exists_eq_add_of_le noMore
  have multiple : value.normalize.magnitude * 10 ^ further = coefficient.natAbs := by
    rw [← coefficient_of_normalize same, Int.natAbs_mul, nat_abs_coefficient, Int.natAbs_pow]
    rfl
  have positive : 1 ≤ 10 ^ further := Nat.one_le_pow _ _ (by decide)
  calc
    value.normalize.magnitude ≤ value.normalize.magnitude * 10 ^ further :=
      Nat.le_mul_of_pos_right _ positive
    _ = coefficient.natAbs := multiple
    _ < 10 ^ digits := small

theorem has_at_most_iff (digits places : Nat) (value : Decimal) :
    value.HasAtMost digits places ↔
      value.normalize.scale ≤ places ∧ value.normalize.magnitude < 10 ^ digits := by
  constructor
  · exact HasAtMost.shortest
  · intro few
    have small : value.normalize.coefficient.natAbs < 10 ^ digits := by
      rw [nat_abs_coefficient]
      exact few.2
    exact ⟨value.normalize.coefficient, value.normalize.scale, few.1, small,
      value.to_rat_normalize.symm⟩

theorem HasAtMost.normalize {digits places : Nat} {value : Decimal}
    (few : value.HasAtMost digits places) : value.normalize.HasAtMost digits places := by
  unfold HasAtMost
  rw [to_rat_normalize]
  exact few

theorem HasAtMost.mono {digits places more : Nat} {value : Decimal}
    (few : value.HasAtMost digits places) (fewer : places ≤ more) :
    value.HasAtMost digits more := by
  rcases few with ⟨coefficient, scale, fits, small, same⟩
  exact ⟨coefficient, scale, fits.trans fewer, small, same⟩

theorem HasAtMost.has_places {digits places : Nat} {value : Decimal}
    (few : value.HasAtMost digits places) : value.HasPlaces places := by
  rcases few with ⟨coefficient, scale, fits, _, same⟩
  exact ⟨coefficient, scale, fits, same⟩

theorem digit_count_pos (value : Decimal) : 0 < value.digitCount := Nat.length_toDigits_pos

theorem digit_count_le_iff {limit : Nat} (some : 0 < limit) (value : Decimal) :
    value.digitCount ≤ limit ↔ value.magnitude < 10 ^ limit :=
  Nat.length_toDigits_le_iff (by decide) some

end Decimal

namespace Check

open Decimal

/-- All ways in which the check comes out, and when it comes out so. Without any digits there is
no number, not even zero. -/
theorem precision_cases (limit places : Nat) (value : Decimal) :
    (¬value.HasPlaces places ∧ precision limit places value = .error (.tooManyPlaces places)) ∨
    (value.HasPlaces places ∧ ¬(0 < limit ∧ value.HasAtMost limit (min places limit)) ∧
      precision limit places value = .error (.tooManyDigits limit)) ∨
    (0 < limit ∧ value.HasAtMost limit (min places limit) ∧
      precision limit places value = .ok ()) := by
  have counted := value.normalize.digit_count_pos
  rw [has_places_iff, has_at_most_iff]
  unfold precision
  dsimp only
  split
  · rename_i manyPlaces
    exact .inl ⟨by omega, rfl⟩
  rename_i fewPlaces
  split
  · rename_i manyDigits
    have outside : ¬(0 < limit ∧ value.normalize.scale ≤ min places limit ∧
        value.normalize.magnitude < 10 ^ limit) := by
      intro inside
      have fewDigits := (digit_count_le_iff inside.1 _).2 inside.2.2
      omega
    exact .inr (.inl ⟨by omega, outside, rfl⟩)
  · rename_i fewDigits
    have given : 0 < limit := by omega
    have small : value.normalize.magnitude < 10 ^ limit :=
      (digit_count_le_iff given _).1 (by omega)
    exact .inr (.inr ⟨given, ⟨by omega, small⟩, rfl⟩)

section Outcomes

variable {limit places : Nat} {value : Decimal}

theorem precision_eq_ok_iff :
    precision limit places value = .ok () ↔
      0 < limit ∧ value.HasAtMost limit (min places limit) := by
  rcases precision_cases limit places value with
    ⟨manyPlaces, refused⟩ | ⟨_, manyDigits, refused⟩ | ⟨given, fits, accepted⟩
  · apply iff_of_false
    · rw [refused]
      nofun
    · intro inside
      exact manyPlaces (inside.2.mono (min_le_left _ _)).has_places
  · apply iff_of_false
    · rw [refused]
      nofun
    · exact manyDigits
  · exact iff_of_true accepted ⟨given, fits⟩

theorem precision_eq_too_many_places_iff :
    precision limit places value = .error (.tooManyPlaces places) ↔ ¬value.HasPlaces places := by
  rcases precision_cases limit places value with
    ⟨manyPlaces, refused⟩ | ⟨fewPlaces, _, refused⟩ | ⟨_, fits, accepted⟩
  · exact iff_of_true refused manyPlaces
  · apply iff_of_false
    · rw [refused]
      nofun
    · exact not_not_intro fewPlaces
  · apply iff_of_false
    · rw [accepted]
      nofun
    · exact not_not_intro (fits.mono (min_le_left _ _)).has_places

theorem precision_eq_too_many_digits_iff :
    precision limit places value = .error (.tooManyDigits limit) ↔
      value.HasPlaces places ∧ ¬(0 < limit ∧ value.HasAtMost limit (min places limit)) := by
  rcases precision_cases limit places value with
    ⟨manyPlaces, refused⟩ | ⟨fewPlaces, manyDigits, refused⟩ | ⟨given, fits, accepted⟩
  · apply iff_of_false
    · rw [refused]
      nofun
    · intro outside
      exact manyPlaces outside.1
  · exact iff_of_true refused ⟨fewPlaces, manyDigits⟩
  · apply iff_of_false
    · rw [accepted]
      nofun
    · intro outside
      exact outside.2 ⟨given, fits⟩

end Outcomes

/-- The check sees nothing of a decimal but its shortest form. -/
theorem precision_of_same {a b : Decimal} (same : a.toRat = b.toRat) (limit places : Nat) :
    precision limit places a = precision limit places b := by
  unfold precision
  rw [(normalize_eq_iff a b).2 same]

end Check

namespace Decimal

theorem has_at_most_of_checked {digits places : Nat} {value : Decimal} {passed : Unit}
    (checked : Check.precision digits places value = .ok passed) :
    value.HasAtMost digits places :=
  (Check.precision_eq_ok_iff.1 checked).2.mono (min_le_left _ _)

theorem HasAtMost.checked {digits places : Nat} {value : Decimal}
    (few : value.HasAtMost digits places) (some : 0 < digits) (order : places ≤ digits) :
    Check.precision digits places value = .ok () := by
  rw [Check.precision_eq_ok_iff, min_eq_left order]
  exact ⟨some, few⟩

/-- A number is accepted exactly if it can be written within both bounds, where every place counts
as a digit, and it is refused for its places exactly if it cannot be written with so few of them.
Decimals of one number have the same answer. -/
theorem precision_is_of_the_number {limit : Nat} (some : 1 ≤ limit) (places : Nat)
    (value : Decimal) :
    (Check.precision limit places value = .ok () ↔ value.HasAtMost limit (min places limit)) ∧
    (∀ other : Decimal, other.toRat = value.toRat →
      Check.precision limit places other = Check.precision limit places value) ∧
    (Check.precision limit places value = .error (.tooManyPlaces places) ↔
      ¬value.HasPlaces places) ∧
    (Check.precision limit places value = .error (.tooManyDigits limit) ↔
      value.HasPlaces places ∧ ¬value.HasAtMost limit (min places limit)) := by
  have given : 0 < limit := some
  have accepted : Check.precision limit places value = .ok () ↔
      value.HasAtMost limit (min places limit) := by
    rw [Check.precision_eq_ok_iff, and_iff_right given]
  have tooManyDigits : Check.precision limit places value = .error (.tooManyDigits limit) ↔
      value.HasPlaces places ∧ ¬value.HasAtMost limit (min places limit) := by
    rw [Check.precision_eq_too_many_digits_iff, and_iff_right given]
  exact ⟨accepted, fun _ same => Check.precision_of_same same limit places,
    Check.precision_eq_too_many_places_iff, tooManyDigits⟩

/-- Both places of `-0.0500` are digits, and the zeros at its end are none. -/
theorem five_hundredths_have_two_digits :
    (1 ≤ 2 ∧ Check.precision 2 2 ⟨true, 500, 4, by decide, by decide⟩ = .ok ()) ∧
    (1 ≤ 1 ∧ Check.precision 1 2 ⟨true, 500, 4, by decide, by decide⟩ =
      .error (.tooManyDigits 1)) := by
  refine ⟨⟨by decide, (precision_is_of_the_number (by decide) 2 _).1.2 ?_⟩,
    ⟨by decide, (precision_is_of_the_number (by decide) 2 _).2.2.2.2 ⟨?_, ?_⟩⟩⟩
  · exact ⟨-5, 2, by decide, by decide, by norm_num [toRat, coefficient]⟩
  · exact ⟨-5, 2, by decide, by norm_num [toRat, coefficient]⟩
  · rw [has_at_most_iff]
    decide

end Decimal

end SupplyCatalog
