import SupplyCatalog.Payload.Value
import SupplyCatalog.Proofs.Digits

/-!
# Plain text

Text is read without the blanks at its ends. Numbers and booleans count as the text they are written
as, in which there are no blanks at all.
-/

namespace SupplyCatalog

namespace Text

/-! ## Codes of characters -/

theorem between_iff (low high c : Char) :
    low ≤ c ∧ c ≤ high ↔ low.toNat ≤ c.toNat ∧ c.toNat ≤ high.toNat := Iff.rfl

theorem is_digit_iff (c : Char) : isDigit c = true ↔ 48 ≤ c.toNat ∧ c.toNat ≤ 57 := by
  rw [isDigit, Bool.and_eq_true, decide_eq_true_eq, decide_eq_true_eq]
  exact between_iff '0' '9' c

theorem is_letter_iff (c : Char) : isLetter c = true ↔
    (65 ≤ c.toNat ∧ c.toNat ≤ 90) ∨ (97 ≤ c.toNat ∧ c.toNat ≤ 122) := by
  rw [isLetter, Bool.or_eq_true, Bool.and_eq_true, Bool.and_eq_true, decide_eq_true_eq,
    decide_eq_true_eq, decide_eq_true_eq, decide_eq_true_eq]
  exact or_congr (between_iff 'A' 'Z' c) (between_iff 'a' 'z' c)

/-! ## Text without blanks at its ends -/

structure IsTrimmed (text : String) : Prop where
  first : ∀ c ∈ text.toList.head?, isBlank c = false
  last : ∀ c ∈ text.toList.getLast?, isBlank c = false

theorem is_trimmed_empty : IsTrimmed "" := by
  constructor <;> simp

theorem is_trimmed_of_no_blank {text : String} (clean : ∀ c ∈ text.toList, isBlank c = false) :
    IsTrimmed text where
  first c first := clean c (List.mem_of_head? first)
  last c last := clean c (List.mem_of_getLast? last)

theorem head_of_drop_while (chars : List Char) {c : Char}
    (first : c ∈ (chars.dropWhile isBlank).head?) : isBlank c = false := by
  have kept := List.head?_dropWhile_not isBlank chars
  rw [Option.mem_def.1 first] at kept
  exact kept

/-- What is left of a text when blanks are dropped at its end is the beginning of it. -/
theorem drop_end_is_prefix (chars : List Char) :
    (chars.reverse.dropWhile isBlank).reverse <+: chars := by
  rw [← List.reverse_suffix, List.reverse_reverse]
  exact List.dropWhile_suffix isBlank

theorem is_trimmed_trim (text : String) : IsTrimmed (trim text) := by
  constructor
  case first =>
    intro c first
    rw [trim, String.toList_ofList, trimChars] at first
    obtain ⟨rest, joined⟩ := drop_end_is_prefix (text.toList.dropWhile isBlank)
    apply head_of_drop_while text.toList
    rw [← joined, List.head?_append, Option.mem_def.1 first]
    rfl
  case last =>
    intro c last
    rw [trim, String.toList_ofList, trimChars, List.getLast?_reverse] at last
    exact head_of_drop_while _ last

theorem drop_while_of_head {chars : List Char}
    (first : ∀ c ∈ chars.head?, isBlank c = false) : chars.dropWhile isBlank = chars := by
  cases chars with
  | nil => rfl
  | cons c rest => exact List.dropWhile_cons_of_neg (by simp [first c rfl])

/-- There is nothing to cut off a trimmed text. -/
theorem IsTrimmed.trim_eq {text : String} (trimmed : IsTrimmed text) : trim text = text := by
  have last : ∀ c ∈ text.toList.reverse.head?, isBlank c = false := by
    rw [List.head?_reverse]
    exact trimmed.last
  rw [trim, trimChars, drop_while_of_head trimmed.first, drop_while_of_head last,
    List.reverse_reverse, String.ofList_toList]

/-- A trimmed text that is not empty does not consist of blanks. -/
theorem IsTrimmed.exists_not_blank {text : String} (trimmed : IsTrimmed text)
    (given : text ≠ "") : ∃ c ∈ text.toList, isBlank c = false := by
  cases chars : text.toList with
  | nil => exact absurd (String.toList_eq_nil_iff.1 chars) given
  | cons c rest => exact ⟨c, List.mem_cons_self, trimmed.first c (by simp [chars])⟩

end Text

/-! ## Numbers as text -/

namespace Number

/-- The characters that numbers are written with. -/
def Writes (c : Char) : Prop := Text.isDigit c = true ∨ c ∈ ['-', '+', '.', 'e']

theorem Writes.not_blank {c : Char} (writes : Writes c) : Text.isBlank c = false := by
  rcases writes with digit | mark
  · have bounds := (Text.is_digit_iff c).1 digit
    simp [Text.isBlank]
    omega
  · simp only [List.mem_cons, List.not_mem_nil, or_false] at mark
    rcases mark with rfl | rfl | rfl | rfl <;> decide

theorem writes_of_mem_to_digits {number : Nat} {c : Char}
    (member : c ∈ Nat.toDigits 10 number) : Writes c :=
  .inl (is_digit_of_mem_to_digits member)

theorem writes_whole {value : Int} {c : Char} (member : c ∈ (toString value).toList) :
    Writes c := by
  rcases mem_whole member with rfl | digit
  · exact .inr (by decide)
  · exact .inl digit

theorem writes_exponent {exponent : Int} {c : Char} (member : c ∈ exponentChars exponent) :
    Writes c := by
  rcases List.mem_cons.1 member with sign | digit
  · rw [sign]
    split
    · exact .inr (by decide)
    · exact .inr (by decide)
  · exact writes_of_mem_to_digits digit

theorem writes_lay_out {format : RealFormat} {digits : List Char} {lead : Int}
    (written : ∀ c ∈ digits, Writes c) {c : Char} (member : c ∈ layOut format digits lead) :
    Writes c := by
  have zero : Writes '0' := .inl (by decide)
  have point : Writes '.' := .inr (by decide)
  have padded (zeros : Nat) : ∀ c ∈ digits ++ List.replicate zeros '0', Writes c := by
    intro c member
    rcases List.mem_append.1 member with digit | filler
    · exact written c digit
    · rw [List.eq_of_mem_replicate filler]
      exact zero
  unfold layOut at member
  split at member
  · split at member
    · rcases List.mem_cons.1 member with rfl | member
      · exact zero
      rcases List.mem_cons.1 member with rfl | member
      · exact point
      rcases List.mem_append.1 member with filler | digit
      · rw [List.eq_of_mem_replicate filler]
        exact zero
      · exact written c digit
    · dsimp only at member
      rcases List.mem_append.1 member with whole | member
      · exact padded _ c (List.mem_of_mem_take whole)
      rcases List.mem_cons.1 member with rfl | member
      · exact point
      split at member
      · rw [List.mem_singleton.1 member]
        exact zero
      · exact padded _ c (List.mem_of_mem_drop member)
  · cases digits with
    | nil => cases member
    | cons first rest =>
        rcases List.mem_append.1 member with digits | member
        · rcases List.mem_cons.1 digits with rfl | places
          · exact written c List.mem_cons_self
          split at places
          · cases places
          rcases List.mem_cons.1 places with rfl | place
          · exact point
          · exact written c (List.mem_cons_of_mem first place)
        rcases List.mem_cons.1 member with rfl | exponent
        · exact .inr (by decide)
        · exact writes_exponent exponent

theorem writes_magnitude {bits : Nat} {c : Char} (member : c ∈ magnitudeChars bits) :
    Writes c := by
  unfold magnitudeChars at member
  split at member
  · simp only [List.mem_cons, List.not_mem_nil, or_false] at member
    rcases member with rfl | rfl | rfl
    · exact .inl (by decide)
    · exact .inr (by decide)
    · exact .inl (by decide)
  · exact writes_lay_out (fun _ digit => writes_of_mem_to_digits digit) member

theorem writes_real {value : Float} {c : Char} (member : c ∈ (realText value).toList) :
    Writes c := by
  rw [realText, String.toList_ofList] at member
  rcases List.mem_append.1 member with sign | digits
  · split at sign
    · rw [List.mem_singleton.1 sign]
      exact .inr (by decide)
    · cases sign
  · exact writes_magnitude digits

end Number

theorem JsonNumber.writes_text (number : JsonNumber) :
    ∀ c ∈ number.text.toList, Number.Writes c := by
  intro c member
  cases number with
  | whole value => exact Number.writes_whole member
  | real value => exact Number.writes_real member

/-- Whatever counts as text is read without blanks at its ends. -/
theorem Value.is_trimmed_of_plain {json : Json} {read : String}
    (plain : plainText json = .ok read) : Text.IsTrimmed read := by
  cases json with
  | string value =>
      cases plain
      exact Text.is_trimmed_trim value
  | number value =>
      cases plain
      apply Text.is_trimmed_of_no_blank
      intro c member
      exact (value.writes_text c member).not_blank
  | bool value =>
      cases plain
      apply Text.is_trimmed_of_no_blank
      cases value <;> simp [Text.isBlank]
  | null => cases plain
  | array items => cases plain
  | object fields => cases plain

end SupplyCatalog
