import SupplyCatalog.Proofs.Decimal
import SupplyCatalog.Sql.Value

/-!
# Decimals in columns

The database compares decimals by the texts under which they are kept. As every number has one
shortest form and its text reads back as that form, equal texts mean equal numbers and nothing is
lost on the way through a column. This holds of every decimal, zeros of any sign and scale included.
-/

namespace SupplyCatalog.Sql

namespace Argument

/-- What a column that holds a decimal is read as. -/
def decimal? : Argument → Option Decimal
  | .text written => Decimal.readPlain? written
  | _ => none

def optionalDecimal? : Argument → Option (Option Decimal)
  | .null => some none
  | argument => argument.decimal?.map some

end Argument

theorem of_decimal_eq_iff (left right : Decimal) :
    Value.ofDecimal left = Value.ofDecimal right ↔ left.toRat = right.toRat := by
  rw [← Decimal.to_text_normalize_eq_iff]
  simp [Value.ofDecimal, Value.ofText]

theorem decimal_of_decimal (value : Decimal) :
    (Argument.ofValue (.ofDecimal value)).decimal? = some value.normalize :=
  Decimal.read_plain_normalize value

/-- A decimal that is there is kept as if its column could not be without one. -/
theorem of_optional_some (value : Decimal) :
    Value.ofOptionalDecimal (some value) = Value.ofDecimal value := rfl

theorem of_optional_decimal_eq_iff (left right : Option Decimal) :
    Value.ofOptionalDecimal left = Value.ofOptionalDecimal right ↔
      left.map Decimal.toRat = right.map Decimal.toRat := by
  cases left with
  | none =>
      cases right with
      | none => exact iff_of_true rfl rfl
      | some right => exact iff_of_false (by rintro ⟨⟩) (by rintro ⟨⟩)
  | some left =>
      cases right with
      | none => exact iff_of_false (by rintro ⟨⟩) (by rintro ⟨⟩)
      | some right =>
          rw [of_optional_some, of_optional_some, of_decimal_eq_iff, Option.map_some,
            Option.map_some, Option.some_inj]

theorem optional_decimal_of_optional (value : Option Decimal) :
    (Argument.ofValue (.ofOptionalDecimal value)).optionalDecimal? =
      some (value.map (·.normalize)) := by
  cases value with
  | none => rfl
  | some value => exact congrArg (Option.map some) (decimal_of_decimal value)

/-- Texts are the same for the same number alone, each is read back as the number it was written
for, and null is what a missing decimal becomes and is read back as. -/
theorem decimals_are_kept_by_number (left right : Decimal) (first second : Option Decimal) :
    (Value.ofDecimal left = Value.ofDecimal right ↔ left.toRat = right.toRat) ∧
    (∃ read, (Argument.ofValue (.ofDecimal left)).decimal? = some read ∧
      read.toRat = left.toRat) ∧
    (Value.ofOptionalDecimal first = Value.ofOptionalDecimal second ↔
      first.map Decimal.toRat = second.map Decimal.toRat) ∧
    (∃ read, (Argument.ofValue (.ofOptionalDecimal first)).optionalDecimal? = some read ∧
      read.map Decimal.toRat = first.map Decimal.toRat) ∧
    (Argument.ofValue (.ofOptionalDecimal first) = .null ↔ first = none) := by
  have sameNumbers : (first.map (·.normalize)).map Decimal.toRat = first.map Decimal.toRat := by
    rw [Option.map_map]
    exact Option.map_congr fun value _ => Decimal.to_rat_normalize value
  refine ⟨of_decimal_eq_iff left right,
    ⟨left.normalize, decimal_of_decimal left, Decimal.to_rat_normalize left⟩,
    of_optional_decimal_eq_iff first second,
    ⟨first.map (·.normalize), optional_decimal_of_optional first, sameNumbers⟩, ?_⟩
  cases first with
  | none => exact iff_of_true rfl rfl
  | some value => exact iff_of_false (by rintro ⟨⟩) (by rintro ⟨⟩)

end SupplyCatalog.Sql
