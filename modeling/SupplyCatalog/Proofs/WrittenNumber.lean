import Mathlib.Algebra.Order.Field.Basic
import Mathlib.Tactic.Linarith
import SupplyCatalog.Proofs.FieldRule
import SupplyCatalog.Proofs.PayloadForm

/-!
# Numbers that are written out

A decimal that is given as a text is checked once it has been read, and reading rounds what has no
room in a decimal. So the limits are limits on the rounded number: what is written with more places
may be taken all the same, and is then taken for another number close by. All other numbers are
taken as they are written.
-/

namespace SupplyCatalog

/-! ## Numbers in digits -/

/-- A number with a sign or none, digits, and more digits after a point or no point. -/
structure Numeral where
  sign : List Char
  whole : List Char
  fraction : Option (List Char)
  signed : sign = [] ∨ sign = ['+'] ∨ sign = ['-']
  someWhole : whole ≠ []
  wholeDigits : ∀ c ∈ whole, Text.isDigit c = true
  someFraction : fraction ≠ some []
  fractionDigits : ∀ digits ∈ fraction, ∀ c ∈ digits, Text.isDigit c = true

namespace Numeral

variable (numeral : Numeral)

def chars : List Char :=
  numeral.sign ++ (numeral.whole ++ numeral.fraction.elim [] ('.' :: ·))

def text : String := String.ofList numeral.chars

def places : List Char := numeral.fraction.getD []

def isNegative : Bool := numeral.sign == ['-']

def size : ℚ :=
  Nat.ofDigitChars 10 (numeral.whole ++ numeral.places) 0 / 10 ^ numeral.places.length

def value : ℚ := if numeral.isNegative then -numeral.size else numeral.size

end Numeral

namespace Decimal

open SupplyCatalog

def signed (negative : Bool) (size : ℚ) : ℚ := if negative then -size else size

theorem abs_signed (negative : Bool) (size : ℚ) : |signed negative size| = |size| := by
  cases negative with
  | false => rfl
  | true => exact abs_neg size

theorem to_rat_of_parts {negative : Bool} {magnitude scale : Nat} {value : Decimal}
    (made : ofParts? negative magnitude scale = some value) :
    value.toRat = signed negative (magnitude / 10 ^ scale) := by
  unfold ofParts? ofSigned? at made
  split at made
  · cases made
    unfold toRat coefficient signed
    by_cases zero : magnitude = 0
    · simp [zero]
    · cases negative <;> simp [zero, neg_div]
  · cases made

/-! ## Digits for which there is room -/

theorem digit_value_le {c : Char} (digit : Text.isDigit c = true) : Number.digitValue c ≤ 9 := by
  have bounds := (Text.is_digit_iff c).1 digit
  unfold Number.digitValue
  omega

theorem of_digit_chars_lt {digits : List Char} (areDigits : ∀ c ∈ digits, Text.isDigit c = true) :
    Nat.ofDigitChars 10 digits 0 < 10 ^ digits.length := by
  induction digits with
  | nil => decide
  | cons c digits induction =>
      obtain ⟨digit, others⟩ := List.forall_mem_cons.1 areDigits
      have least := digit_value_le digit
      rw [Nat.ofDigitChars_cons, Nat.ofDigitChars_eq_ofDigitChars_zero, List.length_cons, pow_succ]
      change 10 ^ digits.length * (10 * 0 + Number.digitValue c) + _ < _
      calc
        _ < 10 ^ digits.length * (10 * 0 + Number.digitValue c) + 10 ^ digits.length :=
          Nat.add_lt_add_left (induction others) _
        _ = 10 ^ digits.length * (Number.digitValue c + 1) := by ring
        _ ≤ 10 ^ digits.length * 10 := Nat.mul_le_mul_left _ (by omega)

/-- A whole part is read only if there is room for it. -/
theorem fits_of_read {negative : Bool} {digits rest : List Char} {reading : Reading}
    {value : Decimal} (areDigits : ∀ c ∈ digits, Text.isDigit c = true)
    (whole : reading.pointSeen = false) (fits : reading.magnitude < magnitudeLimit)
    (read : readFrom negative reading (digits ++ rest) = some value) :
    Nat.ofDigitChars 10 digits reading.magnitude < magnitudeLimit := by
  induction digits generalizing reading with
  | nil => exact fits
  | cons c digits induction =>
      obtain ⟨digit, others⟩ := List.forall_mem_cons.1 areDigits
      rw [List.cons_append, readFrom, whole, Bool.false_and, if_neg Bool.false_ne_true,
        if_pos digit] at read
      dsimp only at read
      split at read
      · rename_i room
        rw [Nat.ofDigitChars_cons]
        exact induction others rfl room read
      · cases read

/-! ## Digits for which there is no room -/

/-- What is rounded is off by no more than five in the last place that was read, and it is rounded
at the last place of all or because all bits are taken. -/
def Rounds (exact size : ℚ) : Prop :=
  size = exact ∨ ∃ place, |size - exact| * 10 ^ place ≤ 5 ∧
    (place = greatestScale ∨ (magnitudeLimit : ℚ) ≤ exact * 10 ^ (place + 1))

/-- The number that is made up by what has been read and by more digits after the point. -/
def exact (reading : Reading) (digits : List Char) : ℚ :=
  Nat.ofDigitChars 10 digits reading.magnitude / 10 ^ (reading.scale + digits.length)

/-- More digits count for less than one in the last place that was read. -/
theorem exact_bounds (reading : Reading) {digits : List Char}
    (areDigits : ∀ c ∈ digits, Text.isDigit c = true) :
    reading.magnitude ≤ exact reading digits * 10 ^ reading.scale ∧
      exact reading digits * 10 ^ reading.scale < reading.magnitude + 1 := by
  have less : (Nat.ofDigitChars 10 digits 0 : ℚ) < 10 ^ digits.length := by
    exact_mod_cast of_digit_chars_lt areDigits
  have some : (0 : ℚ) ≤ Nat.ofDigitChars 10 digits 0 := Nat.cast_nonneg _
  have power : (0 : ℚ) < 10 ^ digits.length := by positivity
  have scaled : exact reading digits * 10 ^ reading.scale =
      reading.magnitude + Nat.ofDigitChars 10 digits 0 / 10 ^ digits.length := by
    unfold exact
    rw [Nat.ofDigitChars_eq_ofDigitChars_zero, pow_add]
    push_cast
    field_simp
  rw [scaled, add_lt_add_iff_left, div_lt_one power]
  exact ⟨le_add_of_nonneg_right (div_nonneg some power.le), less⟩

def Reading.more (reading : Reading) (c : Char) : Reading :=
  ⟨10 * reading.magnitude + Number.digitValue c, reading.scale + 1, true, true⟩

theorem exact_cons (reading : Reading) (c : Char) (digits : List Char) :
    exact reading (c :: digits) = exact (reading.more c) digits := by
  unfold exact
  rw [Nat.ofDigitChars_cons, List.length_cons, ← Nat.add_assoc, Nat.add_right_comm]
  rfl

/-- Numbers are compared in units of the last place that was read. -/
theorem near_of_units {size exact units : ℚ} {place : Nat} (scaled : size * 10 ^ place = units)
    (above : exact * 10 ^ place ≤ units + 5) (below : units ≤ exact * 10 ^ place + 5) :
    |size - exact| * 10 ^ place ≤ 5 := by
  have power : (0 : ℚ) < 10 ^ place := by positivity
  have units : |size - exact| * 10 ^ place = |size * 10 ^ place - exact * 10 ^ place| := by
    rw [← sub_mul, abs_mul, abs_of_pos power]
  rw [units, scaled, abs_le]
  constructor <;> linarith

theorem round_at_near {negative : Bool} {reading : Reading} {c : Char} {digits : List Char}
    {value : Decimal} (areDigits : ∀ other ∈ c :: digits, Text.isDigit other = true)
    (fits : reading.magnitude < magnitudeLimit)
    (rounded : roundAt negative reading (Number.digitValue c) = some value) :
    ∃ size, value.toRat = signed negative size ∧
      |size - exact reading (c :: digits)| * 10 ^ reading.scale ≤ 5 := by
  obtain ⟨least, most⟩ := exact_bounds reading areDigits
  have power : (10 : ℚ) ^ reading.scale ≠ 0 := by positivity
  unfold roundAt at rounded
  split at rounded
  · refine ⟨_, to_rat_of_parts rounded, near_of_units (div_mul_cancel₀ _ power) ?_ ?_⟩ <;> linarith
  split at rounded
  · refine ⟨_, to_rat_of_parts rounded, near_of_units (div_mul_cancel₀ _ power) ?_ ?_⟩ <;>
      push_cast <;> linarith
  split at rounded
  · cases rounded
  · -- The magnitude is the greatest of all, and with five added it ends in zero.
    rename_i full places
    have greatest : reading.magnitude = magnitudeLimit - 1 := by omega
    have tenfold : (reading.magnitude + 5) / 10 * 10 = reading.magnitude + 5 := by
      rw [greatest]
      decide
    obtain ⟨place, same⟩ := Nat.exists_eq_succ_of_ne_zero places
    have scaled : (((reading.magnitude + 5) / 10 : Nat) / 10 ^ (reading.scale - 1) : ℚ) *
        10 ^ reading.scale = reading.magnitude + 5 := by
      rw [same, Nat.succ_sub_one, pow_succ, ← mul_assoc, div_mul_cancel₀ _ (by positivity)]
      exact_mod_cast tenfold
    refine ⟨_, to_rat_of_parts rounded, near_of_units scaled ?_ ?_⟩ <;> linarith

theorem round_from_near {negative : Bool} {reading : Reading} {c : Char} {digits : List Char}
    {value : Decimal} (areDigits : ∀ other ∈ c :: digits, Text.isDigit other = true)
    (fits : reading.magnitude < magnitudeLimit)
    (rounded : roundFrom negative reading (c :: digits) = some value) :
    ∃ size, value.toRat = signed negative size ∧
      |size - exact reading (c :: digits)| * 10 ^ reading.scale ≤ 5 := by
  have filtered : (c :: digits).filter Text.isDigit = c :: digits :=
    List.filter_eq_self.2 areDigits
  unfold roundFrom at rounded
  rw [filtered] at rounded
  split at rounded
  · exact round_at_near areDigits fits rounded
  · cases rounded

/-- Digits after the point are taken over as long as there is room for them. -/
theorem read_from_near {negative : Bool} {reading : Reading} {digits : List Char} {value : Decimal}
    (areDigits : ∀ c ∈ digits, Text.isDigit c = true) (seen : reading.pointSeen = true)
    (fits : reading.magnitude < magnitudeLimit) (room : reading.scale ≤ greatestScale)
    (read : readFrom negative reading digits = some value) :
    ∃ size, value.toRat = signed negative size ∧ Rounds (exact reading digits) size := by
  induction digits generalizing reading with
  | nil =>
      rw [readFrom] at read
      split at read
      · exact ⟨_, to_rat_of_parts read, .inl rfl⟩
      · cases read
  | cons c digits induction =>
      obtain ⟨digit, others⟩ := List.forall_mem_cons.1 areDigits
      rw [readFrom, seen, Bool.true_and, if_pos digit] at read
      split at read
      · rename_i full
        obtain ⟨size, same, near⟩ := round_from_near areDigits fits read
        exact ⟨size, same, .inr ⟨_, near, .inl (le_antisymm room (of_decide_eq_true full))⟩⟩
      rename_i more
      dsimp only at read
      split at read
      · rename_i next
        rw [exact_cons]
        have place : reading.scale + 1 ≤ greatestScale := by
          rw [decide_eq_true_eq] at more
          omega
        exact @induction (reading.more c) others rfl next place read
      · rename_i full
        rw [if_pos rfl] at read
        obtain ⟨size, same, near⟩ := round_from_near areDigits fits read
        refine ⟨size, same, .inr ⟨_, near, .inr ?_⟩⟩
        have least := (exact_bounds (reading.more c) others).1
        rw [← exact_cons] at least
        have greater : (magnitudeLimit : ℚ) ≤ (reading.more c).magnitude := by
          exact_mod_cast Nat.not_lt.1 full
        exact greater.trans least

end Decimal

/-! ## Reading what is written out -/

namespace Numeral

variable {numeral : Numeral}

theorem mem_chars {c : Char} (member : c ∈ numeral.chars) :
    c ∈ ['+', '-', '.'] ∨ Text.isDigit c = true := by
  rw [chars, List.mem_append, List.mem_append] at member
  rcases member with mark | digit | later
  · left
    rcases numeral.signed with same | same | same <;> rw [same] at mark
    · cases mark
    · rw [List.mem_singleton.1 mark]
      decide
    · rw [List.mem_singleton.1 mark]
      decide
  · exact .inr (numeral.wholeDigits c digit)
  · cases given : numeral.fraction with
    | none =>
        rw [given] at later
        cases later
    | some digits =>
        rw [given] at later
        rcases List.mem_cons.1 later with rfl | digit
        · exact .inl (by decide)
        · exact .inr (numeral.fractionDigits digits given c digit)

theorem trim_text (numeral : Numeral) : Text.trim numeral.text = numeral.text := by
  apply Text.IsTrimmed.trim_eq
  apply Text.is_trimmed_of_no_blank
  intro c member
  rw [text, String.toList_ofList] at member
  apply Number.Writes.not_blank
  rcases mem_chars member with mark | digit
  · right
    simp only [List.mem_cons, List.not_mem_nil, or_false] at mark ⊢
    rcases mark with rfl | rfl | rfl <;> decide
  · exact .inl digit

/-- There is no exponent to be read. -/
theorem read_scientific_eq (numeral : Numeral) : Decimal.readScientific? numeral.text = none := by
  have whole : Decimal.splitExponent? numeral.chars = none := by
    cases split : Decimal.splitExponent? numeral.chars with
    | none => rfl
    | some pieces =>
        obtain ⟨mark, isMark, joined, _⟩ := Text.eq_append_of_split_first split
        have member : mark ∈ numeral.chars := by simp [joined]
        rw [Bool.or_eq_true, beq_iff_eq, beq_iff_eq] at isMark
        rcases isMark with rfl | rfl <;> rcases mem_chars member with sign | digit <;>
          contradiction
  rw [Decimal.readScientific?, text, String.toList_ofList, Decimal.readScientificChars?, whole]
  rfl

/-- A sign is read off first. -/
theorem read_plain_eq (numeral : Numeral) :
    Decimal.readPlain? numeral.text = Decimal.readFrom numeral.isNegative ⟨0, 0, false, false⟩
      (numeral.whole ++ numeral.fraction.elim [] ('.' :: ·)) := by
  rw [Decimal.readPlain?, text, String.toList_ofList, chars, isNegative]
  rcases numeral.signed with none | plus | minus
  · obtain ⟨c, rest, given⟩ := List.exists_cons_of_ne_nil numeral.someWhole
    have digit : Text.isDigit c = true := numeral.wholeDigits c (by simp [given])
    rw [none, List.nil_append, given, List.cons_append]
    exact Decimal.read_plain_chars_of_digit digit _
  · rw [plus]
    rfl
  · rw [minus]
    rfl

theorem read_plain_near {value : Decimal} (read : Decimal.readPlain? numeral.text = some value) :
    ∃ size, value.toRat = Decimal.signed numeral.isNegative size ∧
      Decimal.Rounds numeral.size size := by
  rw [read_plain_eq] at read
  have fits := Decimal.fits_of_read numeral.wholeDigits rfl (by decide) read
  rw [Decimal.read_from_digits _ _ _ _ numeral.wholeDigits fits (fun _ => rfl) nofun] at read
  have seen : (!numeral.whole.isEmpty) = true := by simp [numeral.someWhole]
  rw [Bool.false_or, seen] at read
  cases given : numeral.fraction with
  | none =>
      rw [given] at read
      refine ⟨_, Decimal.to_rat_of_parts ((Decimal.read_from_end _ _ _ _).symm.trans read), .inl ?_⟩
      simp [size, places, given]
  | some digits =>
      rw [given] at read
      have areDigits := numeral.fractionDigits digits given
      have after := (Decimal.read_from_point _ _ _ _ _).symm.trans read
      obtain ⟨near, same, rounds⟩ :=
        Decimal.read_from_near areDigits rfl fits (Nat.zero_le _) after
      refine ⟨near, same, ?_⟩
      have exact : Decimal.exact ⟨Nat.ofDigitChars 10 numeral.whole 0, 0, true, true⟩ digits =
          numeral.size := by
        simp [Decimal.exact, size, places, given, Nat.ofDigitChars_append]
      rw [← exact]
      exact rounds

theorem read_plain_of_read {value : Decimal}
    (read : Value.plainDecimal (.string numeral.text) = .ok value) :
    Decimal.readPlain? numeral.text = some value := by
  obtain ⟨shown, text, rest⟩ := ok_of_bind read
  obtain rfl : numeral.text = shown := numeral.trim_text.symm.trans (Except.ok.inj text)
  rw [Decimal.read?, read_scientific_eq] at rest
  cases plain : Decimal.readPlain? numeral.text with
  | none =>
      rw [plain] at rest
      cases rest
  | some number =>
      rw [plain] at rest
      rw [Except.ok.inj rest]

/-- The number could be written with so many digits after the point. -/
def HasPlaces (numeral : Numeral) (places : Nat) : Prop :=
  ∃ units : ℤ, numeral.value = units / 10 ^ places

/-- A field of so many digits and places takes the number as it is written unless that has more
places; then it takes another number close by. What is taken as it is written keeps all limits. -/
structure IsTaken (numeral : Numeral) (digits places : Nat) (limit : ℚ → Prop) (taken : Decimal) :
    Prop where
  exact_iff : taken.toRat = numeral.value ↔ numeral.HasPlaces places
  near : |taken.toRat - numeral.value| < 1 / 10 ^ 8
  limits : numeral.HasPlaces places →
    (∃ coefficient : ℤ, ∃ scale ≤ places, coefficient.natAbs < 10 ^ digits ∧
      numeral.value = coefficient / 10 ^ scale) ∧ limit numeral.value

theorem abs_sub_value {taken : Decimal} {size : ℚ}
    (same : taken.toRat = Decimal.signed numeral.isNegative size) :
    |taken.toRat - numeral.value| = |size - numeral.size| := by
  rw [same, value, Decimal.signed]
  cases numeral.isNegative with
  | false => rfl
  | true =>
      rw [if_pos rfl, if_pos rfl, neg_sub_neg]
      exact abs_sub_comm _ _

/-- A size of at most nineteen digits before the point leaves room for nine after it. -/
theorem near_of_rounds {exact size : ℚ} (rounds : Decimal.Rounds exact size)
    (small : |size| < 10 ^ 19) : |size - exact| < 1 / 10 ^ 8 := by
  rcases rounds with rfl | ⟨place, near, stopped⟩
  · simp
  have power : (0 : ℚ) < 10 ^ place := by positivity
  have later : 9 ≤ place := by
    rcases stopped with rfl | full
    · decide
    by_contra early
    have one : (1 : ℚ) ≤ 10 ^ place := one_le_pow₀ (by norm_num)
    have few : (10 : ℚ) ^ (place + 1) ≤ 10 ^ 9 := pow_le_pow_right₀ (by norm_num) (by omega)
    have off : |size - exact| ≤ 5 := (le_mul_of_one_le_right (abs_nonneg _) one).trans near
    have bounded : exact ≤ 10 ^ 19 + 5 := by
      linarith [(abs_lt.1 small).2, (abs_le.1 off).1]
    have most : exact * 10 ^ (place + 1) ≤ (10 ^ 19 + 5) * 10 ^ 9 :=
      mul_le_mul bounded few (by positivity) (by norm_num)
    have limit : (10 ^ 19 + 5 : ℚ) * 10 ^ 9 < (Decimal.magnitudeLimit : ℚ) := by
      norm_num [Decimal.magnitudeLimit]
    linarith
  have least : (10 : ℚ) ^ 9 ≤ 10 ^ place := pow_le_pow_right₀ (by norm_num) later
  rw [← le_div_iff₀ power] at near
  calc
    |size - exact| ≤ 5 / 10 ^ place := near
    _ ≤ 5 / 10 ^ 9 := div_le_div_of_nonneg_left (by norm_num) (by norm_num) least
    _ < 1 / 10 ^ 8 := by norm_num

end Numeral

namespace Decimal

open SupplyCatalog

theorem HasAtMost.small {digits places : Nat} {value : Decimal}
    (few : value.HasAtMost digits places) : |value.toRat| < 10 ^ digits := by
  obtain ⟨coefficient, scale, _, short, same⟩ := few
  have power : (1 : ℚ) ≤ 10 ^ scale := one_le_pow₀ (by norm_num)
  have size : |(coefficient : ℚ)| < 10 ^ digits := by
    rw [← Int.cast_abs, Int.abs_eq_natAbs]
    exact_mod_cast short
  rw [same, abs_div, abs_of_pos (lt_of_lt_of_le one_pos power)]
  exact (div_le_self (abs_nonneg _) power).trans_lt size

theorem HasAtMost.units {digits places : Nat} {value : Decimal}
    (few : value.HasAtMost digits places) : ∃ units : ℤ, value.toRat = units / 10 ^ places := by
  obtain ⟨coefficient, scale, fits, _, same⟩ := few
  refine ⟨coefficient * 10 ^ (places - scale), ?_⟩
  have split : (10 : ℚ) ^ places = 10 ^ (places - scale) * 10 ^ scale := by
    rw [← pow_add, Nat.sub_add_cancel fits]
  rw [same, split]
  push_cast
  rw [mul_comm (10 ^ (places - scale) : ℚ), mul_div_mul_right _ _ (by positivity)]

/-- Numbers in the same units that are close by are one number. -/
theorem eq_of_near {a b : ℚ} {places : Nat} (few : places ≤ 8)
    (left : ∃ units : ℤ, a = units / 10 ^ places) (right : ∃ units : ℤ, b = units / 10 ^ places)
    (near : |a - b| < 1 / 10 ^ 8) : a = b := by
  obtain ⟨first, rfl⟩ := left
  obtain ⟨second, rfl⟩ := right
  have power : (0 : ℚ) < 10 ^ places := by positivity
  have coarse : (10 : ℚ) ^ places ≤ 10 ^ 8 := pow_le_pow_right₀ (by norm_num) few
  have less : |(first : ℚ) - second| < 1 := by
    rw [← sub_div, abs_div, abs_of_pos power, div_lt_iff₀ power] at near
    calc
      |(first : ℚ) - second| < 1 / 10 ^ 8 * 10 ^ places := near
      _ ≤ 1 / 10 ^ 8 * 10 ^ 8 := mul_le_mul_of_nonneg_left coarse (by norm_num)
      _ = 1 := by norm_num
  have apart : |first - second| < 1 := by exact_mod_cast less
  rw [sub_eq_zero.1 (Int.abs_lt_one_iff.1 apart)]

end Decimal

/-! ## Fields -/

namespace Value

/-- The reader takes numbers of so many digits and places that keep a limit. -/
def TakesDecimals (read : Json → Checked Decimal) (digits places : Nat) (limit : ℚ → Prop) : Prop :=
  ∀ json taken, read json = .ok taken → decimal digits places json = .ok taken ∧ limit taken.toRat

theorem decimal_takes (digits places : Nat) :
    TakesDecimals (decimal digits places) digits places fun _ => True :=
  fun _ _ read => ⟨read, trivial⟩

theorem decimal_at_least_takes (least : Decimal) (digits places : Nat) :
    TakesDecimals (decimalAtLeast least digits places) digits places (least.toRat ≤ ·) := by
  intro json taken read
  have keeps := decimal_at_least_keeps least digits places json taken read
  obtain ⟨precise, shown, rest⟩ := ok_of_bind read
  obtain ⟨_, _, same⟩ := ok_of_bind rest
  obtain rfl : precise = taken := Except.ok.inj same
  exact ⟨shown, keeps.2⟩

theorem pack_size_takes : TakesDecimals SupplierPartInput.packSize 15 5 (0 < ·) := by
  intro json taken read
  have keeps := pack_size_keeps json taken read
  obtain ⟨size, shown, rest⟩ := ok_of_bind read
  split at rest
  · obtain rfl : size = taken := Except.ok.inj rest
    exact ⟨shown, keeps.2⟩
  · cases rest

theorem TakesDecimals.is_taken {read : Json → Checked Decimal} {digits places : Nat}
    {limit : ℚ → Prop} (takes : TakesDecimals read digits places limit) (short : digits ≤ 19)
    (few : places ≤ 8) {numeral : Numeral} {taken : Decimal}
    (accepted : read (.string numeral.text) = .ok taken) :
    numeral.IsTaken digits places limit taken := by
  obtain ⟨shown, kept⟩ := takes _ _ accepted
  have atMost := decimal_keeps digits places _ _ shown
  obtain ⟨plain, given, rest⟩ := ok_of_bind shown
  obtain ⟨_, _, same⟩ := ok_of_bind rest
  obtain rfl : plain = taken := Except.ok.inj same
  obtain ⟨size, signed, rounds⟩ := Numeral.read_plain_near (Numeral.read_plain_of_read given)
  have small : |size| < 10 ^ 19 := by
    have same : |plain.toRat| = |size| := by
      rw [signed, Decimal.abs_signed]
    rw [← same]
    exact atMost.small.trans_le (pow_le_pow_right₀ (by norm_num) short)
  have near : |plain.toRat - numeral.value| < 1 / 10 ^ 8 := by
    rw [Numeral.abs_sub_value signed]
    exact Numeral.near_of_rounds rounds small
  have exact (places : numeral.HasPlaces places) : plain.toRat = numeral.value :=
    Decimal.eq_of_near few atMost.units places near
  refine ⟨⟨fun same => ?_, exact⟩, near, fun places => ?_⟩
  · rw [Numeral.HasPlaces, ← same]
    exact atMost.units
  · rw [← exact places]
    exact ⟨atMost, kept⟩

end Value

/-- What stands under a key of a payload that is accepted has been read. -/
theorem Form.Governs.read_of_accepted {C : Type} {form : Form C} {aside : List String}
    {isPartial : Bool} {parse : Json → Except ServiceError C}
    (governs : form.Governs aside isPartial parse) {fields : List (String × Json)} {changes : C}
    (accepted : parse (.object fields) = .ok changes) {field : FormField C} (member : field ∈ form)
    (apart : field.key ∉ aside) {value : Json} (there : Json.lookup fields field.key = some value) :
    ∃ given, field.read value = .ok given ∧ field.held changes = field.keep (some given) := by
  have held := governs.values fields changes accepted field member
  have errors := governs.errors fields field.key apart
  rw [Form.fault_of_mem governs.keys_once member, there, accepted] at errors
  rw [there] at held
  cases read : field.read value with
  | error cause =>
      have wrong : field.fault isPartial (some value) = some cause := by
        simp only [FormField.fault, Payload.fault, read]
      rw [wrong] at errors
      cases errors
  | ok given =>
      refine ⟨given, rfl, ?_⟩
      rw [held, FormField.kept, Payload.given, Option.bind_some, read]
      rfl

section Accepted

variable {C R : Type} {form : Form C} {aside : List String} {isPartial : Bool}
  {parse : Json → Except ServiceError C} (governs : form.Governs aside isPartial parse)
  {fields : List (String × Json)} {changes : C} (accepted : parse (.object fields) = .ok changes)
  {key : String} (apart : key ∉ aside) {isRequired : Bool} {read : Json → Checked Decimal}
  {digits places : Nat} {limit : ℚ → Prop}
  (takes : Value.TakesDecimals read digits places limit) (short : digits ≤ 19) (few : places ≤ 8)
  {numeral : Numeral} (there : Json.lookup fields key = some (.string numeral.text))

include governs accepted apart takes short few there

theorem Column.plain_is_taken {given : C → Option Decimal} {shown : R → Decimal}
    (member : (Column.plain key isRequired read given shown).field ∈ form) :
    ∃ taken, given changes = some taken ∧ numeral.IsTaken digits places limit taken := by
  obtain ⟨taken, shown, held⟩ := governs.read_of_accepted accepted member apart there
  exact ⟨taken, held, takes.is_taken short few shown⟩

theorem Column.nullable_is_taken {given : C → Option (Option Decimal)} {shown : R → Option Decimal}
    (member : (Column.nullable key isRequired read given shown).field ∈ form) :
    ∃ taken, given changes = some (some taken) ∧ numeral.IsTaken digits places limit taken := by
  obtain ⟨value, shown, held⟩ := governs.read_of_accepted accepted member apart there
  change (read (.string numeral.text)).map some = .ok value at shown
  cases number : read (.string numeral.text) with
  | error cause =>
      rw [number] at shown
      cases shown
  | ok taken =>
      rw [number] at shown
      cases shown
      exact ⟨taken, held, takes.is_taken short few number⟩

end Accepted

theorem SupplierPartInput.decimals_are_taken {aside : List String} {isPartial : Bool}
    {parse : Json → Except ServiceError SupplierPartInput}
    (governs : form.Governs aside isPartial parse)
    (apart : ∀ key ∈ ["pack_size", "available"], key ∉ aside) {fields : List (String × Json)}
    {input : SupplierPartInput} (accepted : parse (.object fields) = .ok input)
    (numeral : Numeral) :
    (Json.lookup fields "pack_size" = some (.string numeral.text) →
        ∃ size, input.changes.packSize = some size ∧ numeral.IsTaken 15 5 (0 < ·) size) ∧
      (Json.lookup fields "available" = some (.string numeral.text) →
        ∃ quantity, input.available = some quantity ∧ numeral.IsTaken 10 3 (0 ≤ ·) quantity) := by
  constructor
  · intro there
    exact Column.plain_is_taken governs accepted (apart _ (by decide)) Value.pack_size_takes
      (by decide) (by decide) there (List.mem_append_left _ List.mem_cons_self)
  · intro there
    have takes := Value.decimal_at_least_takes Decimal.zero 10 3
    rw [Decimal.to_rat_zero] at takes
    let column : Column SupplierPartInput SupplierPart :=
      .plain "available" false (Value.decimalAtLeast Decimal.zero 10 3) (·.available) (·.available)
    have member : column.field ∈ form := List.mem_append_right _ List.mem_cons_self
    exact Column.plain_is_taken governs accepted (apart _ (by decide)) takes (by decide)
      (by decide) there member

theorem PriceBreakChanges.decimals_are_taken {table : CurrencyTable} {isPartial : Bool}
    {fields : List (String × Json)} {changes : PriceBreakChanges}
    (accepted : parse table isPartial (.object fields) = .ok changes) (numeral : Numeral) :
    (Json.lookup fields "quantity" = some (.string numeral.text) →
        ∃ quantity, changes.quantity = some quantity ∧ numeral.IsTaken 15 5 (1 ≤ ·) quantity) ∧
      (Json.lookup fields "price" = some (.string numeral.text) →
        ∃ price, changes.price = some (some price) ∧
          numeral.IsTaken 19 6 (fun _ => True) price) := by
  have governs := (describes table).governs isPartial
  constructor
  · intro there
    have takes := Value.decimal_at_least_takes Decimal.one 15 5
    rw [Decimal.to_rat_one] at takes
    exact Column.plain_is_taken governs accepted List.not_mem_nil takes (by decide) (by decide)
      there (List.mem_map_of_mem List.mem_cons_self)
  · intro there
    have takes := Value.decimal_takes 19 6
    have member : Column.nullable "price" true (Value.decimal 19 6) (·.price) (·.price) ∈
        columns table := by
      simp [columns]
    exact Column.nullable_is_taken governs accepted List.not_mem_nil takes (by decide) (by decide)
      there (List.mem_map_of_mem member)

/-- A number that is written out in a field of decimals, in whatever payload, is taken as it is
written exactly if it has no more places than the field admits, and keeps all limits then. -/
theorem written_numbers_are_taken (fields : List (String × Json)) (numeral : Numeral) :
    (∀ input : SupplierPartInput,
      SupplierPartInput.parseCreate (.object fields) = .ok input ∨
          (∃ isPartial, SupplierPartInput.parseUpdate isPartial (.object fields) = .ok input) →
        (Json.lookup fields "pack_size" = some (.string numeral.text) →
          ∃ size, input.changes.packSize = some size ∧ numeral.IsTaken 15 5 (0 < ·) size) ∧
        (Json.lookup fields "available" = some (.string numeral.text) →
          ∃ quantity, input.available = some quantity ∧ numeral.IsTaken 10 3 (0 ≤ ·) quantity)) ∧
    ∀ (table : CurrencyTable) (isPartial : Bool) (changes : PriceBreakChanges),
      PriceBreakChanges.parse table isPartial (.object fields) = .ok changes →
        (Json.lookup fields "quantity" = some (.string numeral.text) →
          ∃ quantity, changes.quantity = some quantity ∧
            numeral.IsTaken 15 5 (1 ≤ ·) quantity) ∧
        (Json.lookup fields "price" = some (.string numeral.text) →
          ∃ price, changes.price = some (some price) ∧
            numeral.IsTaken 19 6 (fun _ => True) price) := by
  constructor
  · rintro input (accepted | ⟨isPartial, accepted⟩)
    · exact SupplierPartInput.decimals_are_taken
        (SupplierPartInput.describes_create.governs false) (by decide) accepted numeral
    · exact SupplierPartInput.decimals_are_taken
        (SupplierPartInput.describes_update.governs isPartial) (by decide) accepted numeral
  · intro table isPartial changes accepted
    exact PriceBreakChanges.decimals_are_taken accepted numeral

/-! ## A number just below one -/

namespace Numeral

/-- Thirty-two nines after the point. -/
def belowOne : Numeral where
  sign := []
  whole := ['0']
  fraction := some (List.replicate 32 '9')
  signed := .inl rfl
  someWhole := by decide
  wholeDigits := List.forall_mem_singleton.2 rfl
  someFraction := by decide
  fractionDigits := by
    rintro digits ⟨⟩ c member
    rw [List.eq_of_mem_replicate member]
    rfl

def taken : Decimal := ⟨false, 10 ^ 28, 28, by decide, by decide⟩

theorem below_one_is_not_taken : taken.toRat ≠ belowOne.value := by
  have digits : Nat.ofDigitChars 10 (belowOne.whole ++ belowOne.places) 0 = 10 ^ 32 - 1 := by
    decide +kernel
  have places : belowOne.places.length = 32 := by decide +kernel
  have value : belowOne.value = (10 ^ 32 - 1 : Nat) / 10 ^ 32 := by
    rw [value, size, digits, places]
    rfl
  have one : taken.toRat = 1 := by
    norm_num [taken, Decimal.toRat, Decimal.coefficient]
  rw [one, value]
  norm_num

end Numeral

def belowOneFields : List (String × Json) :=
  [("part", .number (.whole 1)), ("quantity", .string Numeral.belowOne.text), ("price", .null)]

theorem below_one_is_accepted :
    (PriceBreakChanges.parse .standard false (.object belowOneFields)).toOption.map (·.quantity) =
      some (some Numeral.taken) := by
  decide +kernel

/-- A quantity below one is taken for the least quantity that is admitted. -/
theorem number_below_one_is_rounded :
    ¬ ∀ (fields : List (String × Json)) (numeral : Numeral) (table : CurrencyTable)
      (isPartial : Bool) (changes : PriceBreakChanges) (quantity : Decimal),
      PriceBreakChanges.parse table isPartial (.object fields) = .ok changes →
        Json.lookup fields "quantity" = some (.string numeral.text) →
          changes.quantity = some quantity → quantity.toRat = numeral.value := by
  intro always
  have accepted := below_one_is_accepted
  cases parsed : PriceBreakChanges.parse .standard false (.object belowOneFields) with
  | error failure =>
      rw [parsed] at accepted
      cases accepted
  | ok changes =>
      rw [parsed] at accepted
      have quantity : changes.quantity = some Numeral.taken := Option.some.inj accepted
      exact Numeral.below_one_is_not_taken (always _ _ _ _ changes _ parsed rfl quantity)

end SupplyCatalog
