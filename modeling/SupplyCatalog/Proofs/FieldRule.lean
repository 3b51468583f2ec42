import SupplyCatalog.Payload.SupplierPart
import SupplyCatalog.Proofs.Outcome
import SupplyCatalog.Proofs.PlainText
import SupplyCatalog.Proofs.Precision

/-!
# Rules of fields

What may stand in a field of a row: text, addresses, numbers and codes. The rules say nothing of how
values are read, and whatever a reader accepts keeps the rule of its field. What it does not accept
it refuses for one of few causes.
-/

namespace SupplyCatalog

/-! ## Text -/

namespace Text

/-- Text that is trimmed and has no more characters than its field admits. -/
structure IsFieldText (limit : Nat) (text : String) : Prop where
  trimmed : IsTrimmed text
  short : text.length ≤ limit

structure IsRequiredText (limit : Nat) (text : String) : Prop extends IsFieldText limit text where
  notBlank : ∃ c ∈ text.toList, isBlank c = false

theorem is_field_text_empty (limit : Nat) : IsFieldText limit "" :=
  ⟨is_trimmed_empty, Nat.zero_le limit⟩

theorem eq_append_of_split_first {α : Type} {isMark : α → Bool} {items before after : List α}
    (split : splitFirst? isMark items = some (before, after)) :
    ∃ mark, isMark mark = true ∧ items = before ++ mark :: after ∧
      ∀ item ∈ before, isMark item = false := by
  induction items generalizing before with
  | nil => simp [splitFirst?] at split
  | cons item rest induction =>
      rw [splitFirst?] at split
      cases marks : isMark item with
      | true =>
          simp only [marks, if_true, Option.some.injEq, Prod.mk.injEq] at split
          rcases split with ⟨rfl, rfl⟩
          exact ⟨item, marks, rfl, by simp⟩
      | false =>
          cases later : splitFirst? isMark rest with
          | none => simp [marks, later] at split
          | some pieces =>
              simp only [marks, later, Bool.false_eq_true, if_false, Option.some.injEq,
                Prod.mk.injEq] at split
              rcases split with ⟨rfl, rfl⟩
              obtain ⟨mark, isMark, joined, unmarked⟩ := induction later
              refine ⟨mark, isMark, by rw [joined, List.cons_append], ?_⟩
              intro other member
              rcases List.mem_cons.1 member with rfl | further
              · exact marks
              · exact unmarked other further

end Text

/-! ## Addresses -/

structure Url.IsFieldLink (limit : Nat) (text : String) : Prop
    extends Text.IsFieldText limit text where
  address : text = "" ∨ isAddress linkSchemes text = true

/-- What stands before the one `@` and, after it, a domain with a point inside. -/
def Email.IsDivided (localPart domain : List Char) : Prop :=
  localPart ≠ [] ∧ '@' ∉ localPart ∧ '@' ∉ domain ∧ '.' ∈ domain ∧ domain.head? ≠ some '.' ∧
    domain.getLast? ≠ some '.'

structure Email.IsAddress (text : String) : Prop where
  divided : ∃ localPart domain, text.toList = localPart ++ '@' :: domain ∧
    IsDivided localPart domain
  clean : ∀ c ∈ text.toList, Text.isBlank c = false
  short : text.utf8ByteSize ≤ 254

structure Email.IsFieldAddress (limit : Nat) (text : String) : Prop
    extends Text.IsFieldText limit text where
  address : text = "" ∨ IsAddress text

theorem Url.is_field_link_empty (limit : Nat) : IsFieldLink limit "" :=
  ⟨Text.is_field_text_empty limit, .inl rfl⟩

theorem Email.is_field_address_empty (limit : Nat) : IsFieldAddress limit "" :=
  ⟨Text.is_field_text_empty limit, .inl rfl⟩

theorem Email.is_address_of_checked {text : String} (checked : Check.isEmail text = true) :
    IsAddress text := by
  unfold Check.isEmail at checked
  split at checked
  · cases checked
  · rename_i localPart domain split
    simp only [Bool.and_eq_true, Bool.not_eq_true', List.isEmpty_eq_false_iff,
      List.contains_eq_mem, decide_eq_false_iff_not, decide_eq_true_eq, bne_iff_ne,
      List.any_eq_false, Bool.not_eq_true] at checked
    obtain ⟨⟨⟨⟨⟨⟨named, single⟩, point⟩, short⟩, first⟩, last⟩, clean⟩ := checked
    obtain ⟨mark, isMark, joined, unmarked⟩ := Text.eq_append_of_split_first split
    obtain rfl : mark = '@' := by simpa using isMark
    have noMark : '@' ∉ localPart := by
      intro member
      exact absurd (unmarked '@' member) (by decide)
    exact ⟨⟨localPart, domain, joined, named, noMark, single, point, first, last⟩, clean, short⟩

/-! ## Numbers -/

namespace Decimal

theorem least_of_checked {least value : Decimal} {passed : Unit}
    (checked : Check.minValue least value = .ok passed) : least.toRat ≤ value.toRat := by
  unfold Check.minValue at checked
  split at checked
  · cases checked
  · rename_i notBelow
    rw [lt_iff] at notBelow
    exact not_lt.1 notBelow

@[simp]
theorem to_rat_zero : zero.toRat = 0 := by
  simp [toRat, coefficient, zero]

@[simp]
theorem to_rat_one : one.toRat = 1 := by
  simp [toRat, coefficient, one]

theorem zero_has_at_most (digits places : Nat) : zero.HasAtMost digits places :=
  ⟨0, 0, Nat.zero_le places, by simp, by simp⟩

theorem one_has_at_most {digits : Nat} (some : digits ≠ 0) (places : Nat) :
    one.HasAtMost digits places :=
  ⟨1, 0, Nat.zero_le places, Nat.one_lt_pow some (by decide), by simp⟩

end Decimal

/-! ## What readers accept -/

namespace Value

/-- Whatever the reader accepts keeps the rule. -/
def Keeps {α : Type} (read : Json → Checked α) (rule : α → Prop) : Prop :=
  ∀ json given, read json = .ok given → rule given

theorem text_of_read {limit : Nat} {allowBlank : Bool} {json : Json} {given : String}
    (read : text limit allowBlank json = .ok given) :
    plainText json = .ok given ∧ Text.IsFieldText limit given ∧
      (allowBlank = false → given ≠ "") := by
  obtain ⟨plain, shown, rest⟩ := ok_of_bind read
  split at rest
  · cases rest
  · rename_i accepted
    obtain ⟨passed, short, same⟩ := ok_of_bind rest
    obtain rfl : plain = given := Except.ok.inj same
    refine ⟨shown, ⟨is_trimmed_of_plain shown, ?_⟩, ?_⟩
    · unfold Check.maxLength at short
      split at short
      · cases short
      · omega
    · rintro rfl rfl
      exact accepted rfl

theorem text_keeps (limit : Nat) : Keeps (text limit true) (Text.IsFieldText limit) :=
  fun _ _ read => (text_of_read read).2.1

theorem required_text_keeps (limit : Nat) :
    Keeps (text limit false) (Text.IsRequiredText limit) := by
  intro json given read
  obtain ⟨_, fits, filled⟩ := text_of_read read
  exact ⟨fits, fits.trimmed.exists_not_blank (filled rfl)⟩

theorem address_of_read {schemes : List UrlScheme} {limit : Nat} {json : Json} {given : String}
    (read : address schemes limit json = .ok given) :
    Text.IsFieldText limit given ∧ (given = "" ∨ Url.isAddress schemes given = true) := by
  obtain ⟨plain, shown, rest⟩ := ok_of_bind read
  split at rest
  · rename_i accepted
    obtain rfl : plain = given := Except.ok.inj rest
    refine ⟨text_keeps limit json plain shown, ?_⟩
    simpa using accepted
  · cases rest

theorem link_keeps (limit : Nat) :
    Keeps (address Url.linkSchemes limit) (Url.IsFieldLink limit) := by
  intro json given read
  obtain ⟨fits, named⟩ := address_of_read read
  exact ⟨fits, named⟩

theorem email_keeps (limit : Nat) : Keeps (email limit) (Email.IsFieldAddress limit) := by
  intro json given read
  obtain ⟨plain, shown, rest⟩ := ok_of_bind read
  have fits := text_keeps limit json plain shown
  split at rest
  · rename_i empty
    obtain rfl : plain = given := Except.ok.inj rest
    exact ⟨fits, .inl empty⟩
  · obtain ⟨passed, checked, same⟩ := ok_of_bind rest
    obtain rfl : plain = given := Except.ok.inj same
    refine ⟨fits, .inr (Email.is_address_of_checked ?_)⟩
    unfold Check.email at checked
    split at checked
    · assumption
    · cases checked

theorem decimal_keeps (digits places : Nat) :
    Keeps (decimal digits places) (Decimal.HasAtMost digits places) := by
  intro json given read
  obtain ⟨plain, shown, rest⟩ := ok_of_bind read
  obtain ⟨passed, checked, same⟩ := ok_of_bind rest
  obtain rfl : plain = given := Except.ok.inj same
  exact Decimal.has_at_most_of_checked checked

theorem decimal_at_least_keeps (least : Decimal) (digits places : Nat) :
    Keeps (decimalAtLeast least digits places) fun given =>
      given.HasAtMost digits places ∧ least.toRat ≤ given.toRat := by
  intro json given read
  obtain ⟨precise, shown, rest⟩ := ok_of_bind read
  obtain ⟨passed, checked, same⟩ := ok_of_bind rest
  obtain rfl : precise = given := Except.ok.inj same
  exact ⟨decimal_keeps digits places json precise shown, Decimal.least_of_checked checked⟩

theorem pack_size_keeps :
    Keeps SupplierPartInput.packSize fun given => given.HasAtMost 15 5 ∧ 0 < given.toRat := by
  intro json given read
  obtain ⟨size, shown, rest⟩ := ok_of_bind read
  split at rest
  · rename_i positive
    obtain rfl : size = given := Except.ok.inj rest
    rw [Decimal.lt_iff, Decimal.to_rat_zero] at positive
    exact ⟨decimal_keeps 15 5 json size shown, positive⟩
  · cases rest

theorem currency_keeps (table : CurrencyTable) : Keeps (currency table) (· ∈ table.codes) := by
  intro json given read
  cases json with
  | string code =>
      unfold currency CurrencyTable.validate at read
      dsimp only at read
      split at read
      · rename_i listed
        cases read
        exact List.contains_iff_mem.1 listed
      · cases read
  | _ => cases read

/-! ## What readers refuse -/

/-- The reader refuses a value for one of the causes. -/
def RefusesFor {α : Type} (causes : List Cause) (read : Json → Checked α) : Prop :=
  ∀ json cause, read json = .error cause → cause ∈ causes

theorem pk_refuses_for : RefusesFor [.notAnInteger] pk := by
  intro json cause refused
  rw [List.mem_singleton]
  unfold pk at refused
  split at refused
  · split at refused
    · cases refused
    · exact (Except.error.inj refused).symm
  · split at refused
    · cases refused
    · exact (Except.error.inj refused).symm
  · exact (Except.error.inj refused).symm

theorem plain_text_refuses_for : RefusesFor [.notAString] plainText := by
  intro json cause refused
  rw [List.mem_singleton]
  cases json with
  | string value => cases refused
  | number value => cases refused
  | bool value => cases refused
  | _ => exact (Except.error.inj refused).symm

theorem text_refuses_for (limit : Nat) (allowBlank : Bool) :
    RefusesFor [.notAString, .blank, .tooLong limit] (text limit allowBlank) := by
  intro json cause refused
  rcases error_of_bind refused with noText | ⟨shown, _, refused⟩
  · rw [List.mem_singleton.1 (plain_text_refuses_for json cause noText)]
    simp
  split at refused
  · cases refused
    simp
  rcases error_of_bind refused with long | ⟨_, _, refused⟩
  · unfold Check.maxLength at long
    split at long
    · cases long
      simp
    · cases long
  · cases refused

theorem address_refuses_for (schemes : List UrlScheme) (limit : Nat) :
    RefusesFor [.notAString, .blank, .tooLong limit, .badUrl] (address schemes limit) := by
  intro json cause refused
  rcases error_of_bind refused with noText | ⟨shown, _, refused⟩
  · exact List.mem_append_left [.badUrl] (text_refuses_for limit true json cause noText)
  split at refused
  · cases refused
  · cases refused
    simp

end Value

end SupplyCatalog
