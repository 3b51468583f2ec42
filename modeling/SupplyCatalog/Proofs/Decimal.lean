import Mathlib.Tactic.FieldSimp
import Mathlib.Tactic.NormNum
import Mathlib.Tactic.Ring
import SupplyCatalog.Number.DecimalText
import SupplyCatalog.Proofs.Digits

/-!
# The number that a decimal stands for

The order of decimals is that of the rational numbers that they stand for, and two decimals have one
shortest form exactly when they stand for one number. The text of a decimal reads back as that
decimal, so the texts of shortest forms tell whether two numbers are the same.
-/

namespace SupplyCatalog.Decimal

open SupplyCatalog

/-! ## Values -/

def toRat (value : Decimal) : ℚ := value.coefficient / 10 ^ value.scale

/-- The order of decimals is that of the numbers that they stand for. -/
theorem lt_iff (a b : Decimal) : a < b ↔ a.toRat < b.toRat := by
  have left : (0 : ℚ) < 10 ^ a.scale := by positivity
  have right : (0 : ℚ) < 10 ^ b.scale := by positivity
  have crossed :
      a < b ↔ a.coefficient * (10 : ℚ) ^ b.scale < b.coefficient * (10 : ℚ) ^ a.scale := by
    change a.extended b.scale < b.extended a.scale ↔ _
    unfold extended
    rw [← Int.cast_lt (R := ℚ)]
    push_cast
    simp
  rw [crossed]
  unfold toRat
  rw [div_lt_div_iff₀ left right]

theorem drop_zeros_value (magnitude scale : Nat) :
    ((dropZeros magnitude scale).1 : ℚ) / 10 ^ (dropZeros magnitude scale).2 =
      (magnitude : ℚ) / 10 ^ scale := by
  induction scale generalizing magnitude with
  | zero => simp [dropZeros]
  | succ scale induction =>
      unfold dropZeros
      split
      · next last =>
          rw [induction]
          have tenfold : magnitude = magnitude / 10 * 10 := by omega
          have divided : (magnitude : ℚ) = (magnitude / 10 : Nat) * 10 := by exact_mod_cast tenfold
          rw [divided, pow_succ]
          field_simp
      · rfl

theorem drop_zeros_of_zero (scale : Nat) : (dropZeros 0 scale).1 = 0 := by
  have bound := drop_zeros_magnitude_le 0 scale
  omega

/-- A value and the shortest decimal of it stand for one number. -/
theorem to_rat_normalize (value : Decimal) : value.normalize.toRat = value.toRat := by
  have magnitude := drop_zeros_value value.magnitude value.scale
  by_cases zero : value.magnitude = 0
  · have shortest : value.normalize.coefficient = 0 := by
      simp [coefficient, normalize, zero, drop_zeros_of_zero]
    have itself : value.coefficient = 0 := by simp [coefficient, zero]
    unfold toRat
    rw [shortest, itself]
    simp
  · unfold toRat coefficient
    cases sign : value.negative with
    | false =>
        simp only [normalize, sign]
        simpa using magnitude
    | true =>
        simp only [normalize, sign]
        have negated := congrArg Neg.neg magnitude
        simpa [zero, neg_div] using negated

/-! ## Shortest decimals -/

theorem drop_zeros_eq_zero_iff (magnitude scale : Nat) :
    (dropZeros magnitude scale).1 = 0 ↔ magnitude = 0 := by
  induction scale generalizing magnitude with
  | zero => simp [dropZeros]
  | succ scale induction =>
      unfold dropZeros
      split
      · rw [induction]
        omega
      · rfl

theorem drop_zeros_again (magnitude scale : Nat) :
    dropZeros (dropZeros magnitude scale).1 (dropZeros magnitude scale).2 =
      dropZeros magnitude scale := by
  induction scale generalizing magnitude with
  | zero => simp [dropZeros]
  | succ scale induction =>
      by_cases last : magnitude % 10 = 0
      · have dropped : dropZeros magnitude (scale + 1) = dropZeros (magnitude / 10) scale := by
          conv_lhs => unfold dropZeros
          rw [if_pos last]
        rw [dropped]
        exact induction _
      · have kept : dropZeros magnitude (scale + 1) = (magnitude, scale + 1) := by
          unfold dropZeros
          rw [if_neg last]
        rw [kept, kept]

theorem ext_parts {a b : Decimal} (negative : a.negative = b.negative)
    (magnitude : a.magnitude = b.magnitude) (scale : a.scale = b.scale) : a = b := by
  cases a
  cases b
  cases negative
  cases magnitude
  cases scale
  rfl

/-- A zero among the shortest decimals has no sign. -/
theorem negative_normalize_of_zero {value : Decimal} (zero : value.normalize.magnitude = 0) :
    value.normalize.negative = false := by
  have magnitude : value.magnitude = 0 := (drop_zeros_eq_zero_iff _ _).1 zero
  simp [normalize, magnitude]

theorem normalize_normalize (value : Decimal) : value.normalize.normalize = value.normalize := by
  have again := drop_zeros_again value.magnitude value.scale
  refine ext_parts ?_ (congrArg Prod.fst again) (congrArg Prod.snd again)
  by_cases zero : value.normalize.magnitude = 0
  · rw [negative_normalize_of_zero zero]
    simp only [normalize] at zero ⊢
    simp [zero]
  · change (value.normalize.negative && value.normalize.magnitude != 0) = value.normalize.negative
    simp [zero]

/-- No place of a shortest decimal could be dropped. -/
theorem last_digit_of_drop_zeros (magnitude scale : Nat)
    (places : (dropZeros magnitude scale).2 ≠ 0) : (dropZeros magnitude scale).1 % 10 ≠ 0 := by
  induction scale generalizing magnitude with
  | zero => exact absurd rfl places
  | succ scale induction =>
      unfold dropZeros at places ⊢
      split
      · rename_i last
        rw [if_pos last] at places
        exact induction _ places
      · assumption

theorem nat_abs_coefficient (value : Decimal) : value.coefficient.natAbs = value.magnitude := by
  unfold coefficient
  split <;> simp

/-- Written with more places, the shortest form has zeros behind it. -/
theorem coefficient_of_normalize {value : Decimal} {coefficient : Int} {further : Nat}
    (same : value.toRat = coefficient / 10 ^ (value.normalize.scale + further)) :
    value.normalize.coefficient * 10 ^ further = coefficient := by
  rw [← to_rat_normalize, toRat, div_eq_div_iff (by positivity) (by positivity), pow_add,
    ← mul_assoc, mul_right_comm] at same
  have cancelled : (value.normalize.coefficient : ℚ) * 10 ^ further = coefficient :=
    mul_right_cancel₀ (by positivity) same
  exact_mod_cast cancelled

/-- However a number is written, it takes as many places as its shortest form. -/
theorem scale_normalize_le {value : Decimal} {coefficient : Int} {scale : Nat}
    (same : value.toRat = coefficient / 10 ^ scale) : value.normalize.scale ≤ scale := by
  by_contra more
  obtain ⟨further, places⟩ := Nat.exists_eq_add_of_lt (not_le.1 more)
  have extended : (coefficient : ℚ) / 10 ^ scale =
      (coefficient * 10 ^ (further + 1) : Int) / 10 ^ (value.normalize.scale + 0) := by
    have divisor : (10 : ℚ) ^ value.normalize.scale = 10 ^ scale * 10 ^ (further + 1) := by
      rw [places, add_assoc, pow_add]
    rw [add_zero, divisor, Int.cast_mul, Int.cast_pow, Int.cast_ofNat,
      mul_div_mul_right _ _ (by positivity)]
  -- The last place would hold a zero, which the shortest form has not kept.
  have tenfold := coefficient_of_normalize (same.trans extended)
  rw [pow_zero, mul_one, pow_succ, ← mul_assoc] at tenfold
  have divides : 10 ∣ value.normalize.magnitude := by
    rw [← nat_abs_coefficient, ← Int.natCast_dvd, tenfold]
    exact dvd_mul_left _ _
  have kept : value.normalize.magnitude % 10 ≠ 0 :=
    last_digit_of_drop_zeros value.magnitude value.scale
      (show value.normalize.scale ≠ 0 by omega)
  omega

theorem negative_normalize_iff (value : Decimal) :
    value.normalize.negative = true ↔ value.normalize.coefficient < 0 := by
  by_cases zero : value.normalize.magnitude = 0
  · simp [negative_normalize_of_zero zero, coefficient, zero]
  · unfold coefficient
    cases value.normalize.negative with
    | false => simp
    | true =>
        simp only [if_true, true_iff]
        omega

/-- Every number has one shortest form. -/
theorem normalize_eq_iff (a b : Decimal) : a.normalize = b.normalize ↔ a.toRat = b.toRat := by
  constructor
  · intro same
    rw [← to_rat_normalize a, ← to_rat_normalize b, same]
  · intro same
    have scale : a.normalize.scale = b.normalize.scale := by
      apply le_antisymm
      · exact scale_normalize_le (same.trans (to_rat_normalize b).symm)
      · exact scale_normalize_le (same.symm.trans (to_rat_normalize a).symm)
    have coefficient : a.normalize.coefficient = b.normalize.coefficient := by
      have written : a.toRat = b.normalize.coefficient / 10 ^ (a.normalize.scale + 0) := by
        rw [same, ← to_rat_normalize b, add_zero, scale]
        rfl
      simpa using coefficient_of_normalize written
    have magnitude : a.normalize.magnitude = b.normalize.magnitude := by
      rw [← nat_abs_coefficient, ← nat_abs_coefficient, coefficient]
    have negative : a.normalize.negative = b.normalize.negative := by
      rw [Bool.eq_iff_iff, negative_normalize_iff, negative_normalize_iff, coefficient]
    exact ext_parts negative magnitude scale

/-! ## Signs of zero -/

/-- A zero loses its sign; every other decimal stays as it is. -/
def unsigned (value : Decimal) : Decimal :=
  { value with negative := value.negative && value.magnitude != 0 }

theorem unsigned_of_nonzero {value : Decimal} (nonzero : value.magnitude ≠ 0) :
    value.unsigned = value :=
  ext_parts (by simp [unsigned, nonzero]) rfl rfl

theorem to_rat_unsigned (value : Decimal) : value.unsigned.toRat = value.toRat := by
  by_cases zero : value.magnitude = 0
  · simp [toRat, coefficient, unsigned, zero]
  · rw [unsigned_of_nonzero zero]

theorem unsigned_normalize (value : Decimal) : value.normalize.unsigned = value.normalize := by
  by_cases zero : value.normalize.magnitude = 0
  · exact ext_parts (by simp [unsigned, negative_normalize_of_zero zero]) rfl rfl
  · exact unsigned_of_nonzero zero

theorem of_parts_eq (value : Decimal) :
    ofParts? value.negative value.magnitude value.scale = some value.unsigned :=
  dif_pos ⟨value.magnitude_lt, value.scale_le⟩

/-! ## Texts -/

theorem is_digit_of_mem_padded (magnitude scale : Nat) {c : Char}
    (member : c ∈ paddedDigits magnitude scale) : Text.isDigit c = true :=
  Number.is_digit_of_mem_filled member

theorem value_of_padded (magnitude scale : Nat) :
    Nat.ofDigitChars 10 (paddedDigits magnitude scale) 0 = magnitude :=
  Number.value_of_filled _ magnitude

theorem lt_length_padded (magnitude scale : Nat) :
    scale < (paddedDigits magnitude scale).length := by
  simp only [paddedDigits, List.length_append, List.length_replicate]
  omega

theorem le_of_digit_chars (digits : List Char) (start : Nat) :
    start ≤ Nat.ofDigitChars 10 digits start := by
  induction digits generalizing start with
  | nil => simp
  | cons c rest induction =>
      rw [Nat.ofDigitChars_cons]
      have further := induction (10 * start + (c.toNat - '0'.toNat))
      omega

theorem digit_is_no_point {c : Char} (digit : Text.isDigit c = true) :
    c ≠ '.' ∧ c ≠ '-' ∧ c ≠ '+' := by
  refine ⟨?_, ?_, ?_⟩ <;> rintro rfl <;> revert digit <;> decide

/-- Digits are taken over one by one, as long as there is room for them. -/
theorem read_from_digits (negative : Bool) (digits rest : List Char) (reading : Reading)
    (areDigits : ∀ c ∈ digits, Text.isDigit c = true)
    (fits : Nat.ofDigitChars 10 digits reading.magnitude < magnitudeLimit)
    (whole : reading.pointSeen = false → reading.scale = 0)
    (room : reading.pointSeen = true → reading.scale + digits.length ≤ greatestScale) :
    readFrom negative reading (digits ++ rest) =
      readFrom negative
        { magnitude := Nat.ofDigitChars 10 digits reading.magnitude
          scale := reading.scale + if reading.pointSeen then digits.length else 0
          pointSeen := reading.pointSeen
          digitSeen := reading.digitSeen || !digits.isEmpty } rest := by
  induction digits generalizing reading with
  | nil => simp
  | cons c digits induction =>
      have digit := areDigits c (by simp)
      have more : (reading.pointSeen && decide (greatestScale ≤ reading.scale)) = false := by
        cases seen : reading.pointSeen with
        | false => rfl
        | true =>
            have bound := room seen
            simp only [List.length_cons] at bound
            simp only [Bool.true_and, decide_eq_false_iff_not]
            omega
      rw [Nat.ofDigitChars_cons] at fits ⊢
      have next : 10 * reading.magnitude + Number.digitValue c < magnitudeLimit :=
        lt_of_le_of_lt (le_of_digit_chars digits _) fits
      rw [List.cons_append, readFrom, more, if_neg (by simp), if_pos digit, if_pos next]
      rw [induction _ (fun other member => areDigits other (by simp [member]))
        (by simpa [Number.digitValue] using fits)]
      · cases seen : reading.pointSeen with
        | false =>
            have none := whole seen
            simp [Number.digitValue, none]
        | true =>
            have places :
                reading.scale + 1 + digits.length = reading.scale + (digits.length + 1) := by
              omega
            simp [Number.digitValue, places]
      · intro seen
        simp [show reading.pointSeen = false from seen]
      · intro seen
        have bound := room seen
        have seenBefore : reading.pointSeen = true := seen
        simp only [List.length_cons] at bound
        simp only [seenBefore, if_true]
        omega

theorem read_plain_chars_of_digit {c : Char} (digit : Text.isDigit c = true) (rest : List Char) :
    readPlainChars? (c :: rest) = readFrom false ⟨0, 0, false, false⟩ (c :: rest) := by
  obtain ⟨_, minus, plus⟩ := digit_is_no_point digit
  unfold readPlainChars?
  split
  · next equal => exact absurd (List.cons.inj equal).1 minus
  · next equal => exact absurd (List.cons.inj equal).1 plus
  · rfl

theorem read_from_end (negative : Bool) (magnitude scale : Nat) (pointSeen : Bool) :
    readFrom negative ⟨magnitude, scale, pointSeen, true⟩ [] =
      ofParts? negative magnitude scale := by
  simp [readFrom]

theorem read_from_point (negative : Bool) (magnitude scale : Nat) (digitSeen : Bool)
    (rest : List Char) :
    readFrom negative ⟨magnitude, scale, false, digitSeen⟩ ('.' :: rest) =
      readFrom negative ⟨magnitude, scale, true, digitSeen⟩ rest := by
  have noDigit : Text.isDigit '.' = false := by decide
  simp [readFrom, noDigit]

/-- The digits with the point among them read back as magnitude and scale. -/
theorem read_from_unsigned (negative : Bool) (value : Decimal) :
    readFrom negative ⟨0, 0, false, false⟩
        ((paddedDigits value.magnitude value.scale).take
            ((paddedDigits value.magnitude value.scale).length - value.scale) ++
          if value.scale = 0 then []
          else '.' :: (paddedDigits value.magnitude value.scale).drop
            ((paddedDigits value.magnitude value.scale).length - value.scale)) =
      ofParts? negative value.magnitude value.scale := by
  set digits := paddedDigits value.magnitude value.scale with padded
  have areDigits : ∀ c ∈ digits, Text.isDigit c = true := fun c member =>
    is_digit_of_mem_padded _ _ member
  have total : Nat.ofDigitChars 10 digits 0 = value.magnitude := value_of_padded _ _
  have long : value.scale < digits.length := lt_length_padded _ _
  set whole := digits.length - value.scale with wholeLength
  have joined : digits.take whole ++ digits.drop whole = digits := List.take_append_drop _ _
  have split : Nat.ofDigitChars 10 (digits.drop whole) (Nat.ofDigitChars 10 (digits.take whole) 0) =
      value.magnitude := by
    rw [← Nat.ofDigitChars_append, joined, total]
  have wholeFits : Nat.ofDigitChars 10 (digits.take whole) 0 < magnitudeLimit := by
    have below := le_of_digit_chars (digits.drop whole) (Nat.ofDigitChars 10 (digits.take whole) 0)
    rw [split] at below
    exact lt_of_le_of_lt below value.magnitude_lt
  have wholeGiven : (digits.take whole).isEmpty = false := by
    rw [List.isEmpty_eq_false_iff_exists_mem]
    have present : 0 < (digits.take whole).length := by
      simp only [List.length_take]
      omega
    exact ⟨(digits.take whole)[0], List.getElem_mem present⟩
  rw [read_from_digits negative _ _ _ (fun c member => areDigits c (List.mem_of_mem_take member))
    wholeFits (fun _ => rfl) (by simp)]
  have seen : (false || !(digits.take whole).isEmpty) = true := by rw [wholeGiven]; rfl
  by_cases places : value.scale = 0
  · have every : digits.take whole = digits := by
      apply List.take_of_length_le
      omega
    rw [if_pos places, seen, read_from_end, every, total, places]
    rfl
  · have bound := value.scale_le
    have dropped : (digits.drop whole).length = value.scale := by
      simp only [List.length_drop]
      omega
    rw [if_neg places, seen, read_from_point]
    have fraction := read_from_digits negative (digits.drop whole) []
      ⟨Nat.ofDigitChars 10 (digits.take whole) 0, 0, true, true⟩
      (fun c member => areDigits c (List.mem_of_mem_drop member))
      (by rw [split]; exact value.magnitude_lt) (by simp)
      (by simp only [dropped, greatestScale]; omega)
    rw [List.append_nil] at fraction
    simp only [Bool.false_eq_true, if_false, Nat.add_zero]
    rw [fraction]
    simp only [split, dropped, if_true, Nat.zero_add, Bool.true_or]
    exact read_from_end _ _ _ _

/-- The text of a decimal reads back as that decimal; a zero comes back without a sign. -/
theorem read_plain_to_text (value : Decimal) :
    readPlain? value.toText = some value.unsigned := by
  rw [← of_parts_eq]
  unfold readPlain? toText toChars
  rw [String.toList_ofList]
  cases sign : value.negative with
  | true =>
      simp only [if_true, List.singleton_append, readPlainChars?]
      exact read_from_unsigned true value
  | false =>
      simp only [Bool.false_eq_true, if_false, List.nil_append]
      have long := lt_length_padded value.magnitude value.scale
      cases first : (paddedDigits value.magnitude value.scale).take
          ((paddedDigits value.magnitude value.scale).length - value.scale) with
      | nil =>
          have none := congrArg List.length first
          simp only [List.length_take, List.length_nil] at none
          omega
      | cons c rest =>
          have digit : Text.isDigit c = true := by
            apply is_digit_of_mem_padded value.magnitude value.scale
            apply List.mem_of_mem_take
            rw [first]
            exact List.mem_cons_self
          have unsigned := read_from_unsigned false value
          rw [first, List.cons_append] at unsigned
          rw [List.cons_append, read_plain_chars_of_digit digit]
          exact unsigned

/-- What is kept in shortest form is read back as it is. -/
theorem read_plain_normalize (value : Decimal) :
    readPlain? value.normalize.toText = some value.normalize := by
  rw [read_plain_to_text, unsigned_normalize]

/-- Decimals that are written in the same way stand for one number. -/
theorem to_rat_eq_of_to_text_eq {a b : Decimal} (same : a.normalize.toText = b.normalize.toText) :
    a.toRat = b.toRat := by
  have read := congrArg readPlain? same
  rw [read_plain_normalize, read_plain_normalize] at read
  rw [← to_rat_normalize a, ← to_rat_normalize b, Option.some.inj read]

/-- Shortest decimals are written in the same way exactly when they stand for one number. -/
theorem to_text_normalize_eq_iff (a b : Decimal) :
    a.normalize.toText = b.normalize.toText ↔ a.toRat = b.toRat := by
  constructor
  · exact to_rat_eq_of_to_text_eq
  · intro same
    rw [(normalize_eq_iff a b).2 same]

end SupplyCatalog.Decimal
