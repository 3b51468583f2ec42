import Mathlib.Data.List.Induction
import Mathlib.Data.String.Basic
import SupplyCatalog.FieldErrors

/-!
# Messages by field

Errors are a map: every field stands in it once, in ascending order, with all messages that were
recorded for it and in the order in which they were recorded.
-/

namespace SupplyCatalog.FieldErrors

/-- Every field stands once, and the fields ascend. -/
def IsAscending (errors : FieldErrors) : Prop := errors.entries.Pairwise fun a b => a.1 < b.1

def messagesFor (violations : List Violation) (field : String) : List String :=
  (violations.filter fun violation => violation.field = field).map Violation.message

theorem messages_for_append (first second : List Violation) (key : String) :
    messagesFor (first ++ second) key =
      messagesFor first key ++ messagesFor second key := by
  simp [messagesFor]

theorem messages_for_eq_nil {violations : List Violation} {key : String}
    (others : ∀ violation ∈ violations, violation.field ≠ key) :
    messagesFor violations key = [] := by
  simpa [messagesFor] using others

/-! ## Recording one message -/

section Entries

variable {field message : String} {entries : List (String × List String)}

theorem field_of_mem_add_entry {entry : String × List String}
    (member : entry ∈ addEntry field message entries) : entry.1 = field ∨ entry ∈ entries := by
  induction entries with
  | nil =>
      rw [List.mem_singleton.1 member]
      exact .inl rfl
  | cons first rest induction =>
      unfold addEntry at member
      split at member
      · rcases List.mem_cons.1 member with rfl | later
        · exact .inl rfl
        · exact .inr (List.mem_cons_of_mem _ later)
      split at member
      · rcases List.mem_cons.1 member with rfl | later
        · exact .inl rfl
        · exact .inr later
      · rcases List.mem_cons.1 member with rfl | later
        · exact .inr List.mem_cons_self
        · exact (induction later).imp_right (List.mem_cons_of_mem _)

theorem ascending_add_entry (ascending : entries.Pairwise fun a b => a.1 < b.1) :
    (addEntry field message entries).Pairwise fun a b => a.1 < b.1 := by
  induction entries with
  | nil => exact List.pairwise_singleton _ _
  | cons first rest induction =>
      have above := (List.pairwise_cons.1 ascending).1
      have later := (List.pairwise_cons.1 ascending).2
      unfold addEntry
      split
      · rename_i same
        rw [same] at above
        exact List.pairwise_cons.2 ⟨above, later⟩
      rename_i different
      split
      · rename_i less
        refine List.pairwise_cons.2 ⟨?_, ascending⟩
        intro entry member
        rcases List.mem_cons.1 member with rfl | member
        · exact less
        · exact less.trans (above entry member)
      · rename_i notLess
        refine List.pairwise_cons.2 ⟨?_, induction later⟩
        intro entry member
        rcases field_of_mem_add_entry member with same | member
        · rw [same]
          exact lt_of_le_of_ne (not_lt.1 notLess) different
        · exact above entry member

theorem find_eq_none_of_less (less : ∀ entry ∈ entries, field < entry.1) :
    (entries.find? fun entry => entry.1 == field) = none := by
  rw [List.find?_eq_none]
  intro entry member same
  exact (less entry member).ne' (eq_of_beq same)

/-- The message follows those that the field has, and other fields keep theirs. -/
theorem find_add_entry (ascending : entries.Pairwise fun a b => a.1 < b.1) (other : String) :
    ((addEntry field message entries).find? fun entry => entry.1 == other).map (·.2) =
      if other = field then
        some (((entries.find? fun entry => entry.1 == field).map (·.2)).getD [] ++ [message])
      else (entries.find? fun entry => entry.1 == other).map (·.2) := by
  induction entries with
  | nil =>
      by_cases same : other = field
      · simp [addEntry, same]
      · simp [addEntry, same, Ne.symm same]
  | cons first rest induction =>
      have above := (List.pairwise_cons.1 ascending).1
      have later := (List.pairwise_cons.1 ascending).2
      unfold addEntry
      split
      · rename_i found
        by_cases same : other = field
        · simp [found, same]
        · simp [found, same, Ne.symm same]
      rename_i different
      split
      · rename_i less
        by_cases same : other = field
        · -- Fields ascend, so the field does not stand behind the place that it gets.
          have absent : (rest.find? fun entry => entry.1 == field) = none :=
            find_eq_none_of_less fun entry member => less.trans (above entry member)
          simp [different, same, absent]
        · rw [List.find?_cons_of_neg (by simp [Ne.symm same]), if_neg same]
      · by_cases here : first.1 = other
        · have same : other ≠ field := here ▸ different
          simp [here, same]
        · rw [List.find?_cons_of_neg (by simp [here]), induction later,
            List.find?_cons_of_neg (by simp [different]), List.find?_cons_of_neg (by simp [here])]

end Entries

/-! ## Recording all violations -/

theorem of_violations_append (violations : List Violation) (last : Violation) :
    ofViolations (violations ++ [last]) = (ofViolations violations).push last := by
  simp [ofViolations]

theorem of_violations_is_ascending (violations : List Violation) :
    (ofViolations violations).IsAscending := by
  induction violations using List.reverseRecOn with
  | nil => exact .nil
  | append_singleton violations last induction =>
      rw [of_violations_append]
      exact ascending_add_entry induction

theorem get_push {errors : FieldErrors} (ascending : errors.IsAscending) (violation : Violation)
    (field : String) :
    (errors.push violation).get? field =
      if field = violation.field then
        some ((errors.get? violation.field).getD [] ++ [violation.message])
      else errors.get? field :=
  find_add_entry ascending field

theorem get_of_violations (violations : List Violation) (field : String) :
    (ofViolations violations).get? field =
      if messagesFor violations field = [] then none
      else some (messagesFor violations field) := by
  -- From the end, as each message goes behind those that were recorded before it.
  induction violations using List.reverseRecOn with
  | nil => rfl
  | append_singleton violations last induction =>
      rw [of_violations_append, get_push (of_violations_is_ascending violations)]
      by_cases same : last.field = field
      · have recorded : messagesFor (violations ++ [last]) field =
            messagesFor violations field ++ [last.message] := by
          simp [messagesFor, same]
        rw [if_pos same.symm, same, induction, recorded]
        split <;> simp_all
      · have recorded : messagesFor (violations ++ [last]) field =
            messagesFor violations field := by
          simp [messagesFor, same]
        rw [if_neg (Ne.symm same), induction, recorded]

def Reports (errors : FieldErrors) (field message : String) : Prop :=
  ∃ messages, errors.get? field = some messages ∧ message ∈ messages

theorem mem_messages_for_iff (violations : List Violation) (field message : String) :
    message ∈ messagesFor violations field ↔
      ∃ violation ∈ violations, violation.field = field ∧ violation.message = message := by
  simp [messagesFor, and_assoc]

theorem reports_of_violations_iff (violations : List Violation) (field message : String) :
    (ofViolations violations).Reports field message ↔
      ∃ violation ∈ violations, violation.field = field ∧ violation.message = message := by
  rw [← mem_messages_for_iff, Reports, get_of_violations]
  split
  · rename_i none
    simp [none]
  · simp

theorem contains_of_violations {violations : List Violation} {violation : Violation}
    (member : violation ∈ violations) :
    (ofViolations violations).contains violation.field = true := by
  have recorded : violation.message ∈ messagesFor violations violation.field :=
    (mem_messages_for_iff _ _ _).2 ⟨violation, member, rfl, rfl⟩
  rw [contains, get_of_violations, if_neg (List.ne_nil_of_mem recorded)]
  rfl

theorem of_violations_is_empty_iff (violations : List Violation) :
    (ofViolations violations).isEmpty = true ↔ violations = [] := by
  constructor
  · intro empty
    have entries : (ofViolations violations).entries = [] := List.isEmpty_iff.1 empty
    by_contra some
    obtain ⟨first, rest, rfl⟩ := List.exists_cons_of_ne_nil some
    have found := get_of_violations (first :: rest) first.field
    rw [if_neg (by simp [messagesFor]), get?, entries] at found
    cases found
  · rintro rfl
    rfl

end SupplyCatalog.FieldErrors
