import SupplyCatalog.Proofs.ByteOrder
import SupplyCatalog.Proofs.ErrorMap
import SupplyCatalog.ServiceError

/-!
# Recorded messages

Errors are collected in steps: a message is added, a violation is pushed, or the outcome of a check
is taken over. Whatever the steps are and whichever fields they are about, every message stands with
its field once and in the order of the steps, and nothing else does. The text lists the messages
field by field, with a separator between any two of them.
-/

namespace SupplyCatalog.FieldErrors

/-! ## Steps -/

inductive Step : Type 1
  | add (field message : String)
  | push (violation : Violation)
  | check {α : Type} (outcome : Except Violation α)

namespace Step

def take (errors : FieldErrors) : Step → FieldErrors
  | .add field message => errors.add field message
  | .push violation => errors.push violation
  | .check outcome => (errors.check outcome).2

/-- The message that a step records, behind its field. -/
def recorded? : Step → Option (String × String)
  | .add field message => some (field, message)
  | .push violation => some (violation.field, violation.message)
  | .check (.ok _) => none
  | .check (.error violation) => some (violation.field, violation.message)

end Step

def after (steps : List Step) : FieldErrors := steps.foldl Step.take empty

/-- All messages that the steps record for a field. -/
def recordedFor (steps : List Step) (field : String) : List String :=
  ((steps.filterMap Step.recorded?).filter fun record => record.1 = field).map (·.2)

def asViolation (record : String × String) : Violation := ⟨record.1, .rule record.2⟩

theorem take_eq (errors : FieldErrors) (step : Step) :
    step.take errors = (step.recorded?.map asViolation).toList.foldl push errors := by
  cases step with
  | add field message => rfl
  | push violation => rfl
  | check outcome => cases outcome <;> rfl

theorem after_append (steps : List Step) (last : Step) :
    after (steps ++ [last]) = last.take (after steps) := by
  simp [after]

theorem after_eq (steps : List Step) :
    after steps = ofViolations ((steps.filterMap Step.recorded?).map asViolation) := by
  induction steps using List.reverseRecOn with
  | nil => rfl
  | append_singleton steps last induction =>
      rw [after_append, take_eq, induction]
      cases recorded : last.recorded? with
      | none => simp [recorded]
      | some record => simp [recorded, ofViolations]

theorem messages_for_records (records : List (String × String)) (field : String) :
    messagesFor (records.map asViolation) field =
      (records.filter fun record => record.1 = field).map (·.2) := by
  simp only [messagesFor, List.filter_map, List.map_map]
  rfl

theorem get_after (steps : List Step) (field : String) :
    (after steps).get? field =
      if recordedFor steps field = [] then none else some (recordedFor steps field) := by
  rw [after_eq, get_of_violations, messages_for_records]
  rfl

theorem contains_after_iff (steps : List Step) (field : String) :
    (after steps).contains field = true ↔ recordedFor steps field ≠ [] := by
  rw [contains, get_after]
  split
  · rename_i none
    exact iff_of_false (by simp) (not_not_intro none)
  · rename_i some
    exact iff_of_true rfl some

theorem after_is_ascending (steps : List Step) : (after steps).IsAscending := by
  rw [after_eq]
  exact of_violations_is_ascending _

theorem after_is_empty_iff (steps : List Step) :
    (after steps).isEmpty = true ↔ ∀ step ∈ steps, step.recorded? = none := by
  rw [after_eq, of_violations_is_empty_iff, List.map_eq_nil_iff, List.filterMap_eq_nil_iff]

/-! ## Outcomes -/

theorem to_result_eq_ok_iff (errors : FieldErrors) :
    errors.toResult = .ok () ↔ errors.isEmpty = true := by
  unfold toResult
  split
  · rename_i none
    exact iff_of_true rfl none
  · rename_i some
    exact iff_of_false nofun some

theorem to_result_of_failure {errors : FieldErrors} (failed : errors.toResult ≠ .ok ()) :
    errors.toResult = .error (.validation errors) :=
  if_neg fun none => failed ((to_result_eq_ok_iff errors).2 none)

theorem check_eq_some_iff {α : Type} (errors : FieldErrors) (outcome : Except Violation α)
    (value : α) : (errors.check outcome).1 = some value ↔ outcome = .ok value := by
  cases outcome with
  | ok given => simp [check]
  | error violation => simp [check]

/-! ## Entries -/

def fields (errors : FieldErrors) : List String := errors.entries.map (·.1)

theorem mem_fields_iff (errors : FieldErrors) (field : String) :
    field ∈ errors.fields ↔ errors.contains field = true := by
  simp [fields, contains, get?]

/-- As a field stands once, what is found for it is its entry. -/
theorem get_of_mem {errors : FieldErrors} (ascending : errors.IsAscending)
    {entry : String × List String} (member : entry ∈ errors.entries) :
    errors.get? entry.1 = some entry.2 := by
  rcases List.append_of_mem member with ⟨before, behind, split⟩
  rw [IsAscending, split, List.pairwise_append] at ascending
  have unlike : ∀ other ∈ before, (!(other.1 == entry.1)) = true := by
    intro other earlier
    have less : other.1 < entry.1 := ascending.2.2 other earlier entry List.mem_cons_self
    simpa using less.ne
  have found : (errors.entries.find? fun other => other.1 == entry.1) = some entry := by
    rw [split, List.find?_eq_some_iff_append]
    exact ⟨beq_self_eq_true _, before, behind, rfl, unlike⟩
  rw [get?, found]
  rfl

/-- Behind each field stands what was recorded for it, and that is something. -/
theorem entry_of_after {steps : List Step} {entry : String × List String}
    (member : entry ∈ (after steps).entries) :
    entry.2 = recordedFor steps entry.1 ∧ entry.2 ≠ [] := by
  have found := get_of_mem (after_is_ascending steps) member
  rw [get_after] at found
  split at found
  · cases found
  · rename_i some
    have same : recordedFor steps entry.1 = entry.2 := Option.some.inj found
    exact ⟨same.symm, same ▸ some⟩

theorem fields_ascend (steps : List Step) :
    (after steps).fields.Pairwise fun first second =>
      Text.utf8Bytes first < Text.utf8Bytes second := by
  rw [fields, List.pairwise_map]
  exact (after_is_ascending steps).imp fun less => Text.utf8_bytes_lt less

/-! ## Text -/

def line (field message : String) : String := field ++ ": " ++ message

/-- One line for each message, field by field. -/
def lines (errors : FieldErrors) : List String :=
  errors.entries.flatMap fun entry => entry.2.map (line entry.1)

namespace Writing

/-- What has been written when some lines are done. -/
def ofLines (lines : List String) : Writing := ⟨lines.isEmpty, String.intercalate "; " lines⟩

theorem start_eq : start = ofLines [] := by
  simp [start, ofLines]

theorem write_message_of_lines (lines : List String) (field message : String) :
    (ofLines lines).writeMessage field message = ofLines (lines ++ [line field message]) := by
  cases lines with
  | nil => simp [ofLines, writeMessage, line]
  | cons first rest =>
      have joined : String.intercalate "; " (first :: rest ++ [line field message]) =
          String.intercalate "; " (first :: rest) ++ "; " ++ line field message := by
        rw [String.intercalate_append_of_ne_nil (by simp) (by simp), String.intercalate_singleton]
      rw [ofLines, ofLines, joined]
      rfl

theorem write_entry_of_lines (lines : List String) (entry : String × List String) :
    (ofLines lines).writeEntry entry = ofLines (lines ++ entry.2.map (line entry.1)) := by
  unfold writeEntry
  induction entry.2 generalizing lines with
  | nil => simp
  | cons message rest induction =>
      rw [List.foldl_cons, write_message_of_lines, induction]
      simp

theorem write_entries_of_lines (lines : List String) (entries : List (String × List String)) :
    entries.foldl writeEntry (ofLines lines) =
      ofLines (lines ++ entries.flatMap fun entry => entry.2.map (line entry.1)) := by
  induction entries generalizing lines with
  | nil => simp
  | cons entry rest induction =>
      rw [List.foldl_cons, write_entry_of_lines, induction]
      simp

end Writing

/-- A separator stands between any two lines, whether they are of one field or of two. -/
theorem text_eq (errors : FieldErrors) : errors.text = String.intercalate "; " errors.lines := by
  unfold text
  rw [Writing.start_eq, Writing.write_entries_of_lines]
  rfl

theorem lines_after (steps : List Step) :
    (after steps).lines =
      (after steps).fields.flatMap fun field => (recordedFor steps field).map (line field) := by
  rw [fields, List.flatMap_map]
  apply List.flatMap_congr
  intro entry member
  rw [(entry_of_after member).1]

/-! ## Everything recorded -/

/-- The errors hold every message that the steps record, once and in order, and nothing else. -/
structure KeepsRecords (errors : FieldErrors) (steps : List Step) : Prop where
  messages : ∀ field, errors.get? field =
    if recordedFor steps field = [] then none else some (recordedFor steps field)
  contained : ∀ field, errors.contains field = true ↔ recordedFor steps field ≠ []
  filled : ∀ entry ∈ errors.entries, entry.2 ≠ []
  passes : errors.toResult = .ok () ↔ ∀ step ∈ steps, step.recorded? = none
  fails : errors.toResult ≠ .ok () → errors.toResult = .error (.validation errors)
  /-- A further check hands on a value exactly if it has passed with that value. -/
  handsOn : ∀ {α : Type} (outcome : Except Violation α) (value : α),
    (errors.check outcome).1 = some value ↔ outcome = .ok value
  unchanged : ∀ {α : Type} (value : α), (errors.check (.ok value)).2 = errors
  /-- The text goes through the fields in the order of their bytes. -/
  text : ∃ fields : List String,
    fields.Pairwise (fun first second => Text.utf8Bytes first < Text.utf8Bytes second) ∧
    (∀ field, field ∈ fields ↔ recordedFor steps field ≠ []) ∧
    errors.text = String.intercalate "; "
      (fields.flatMap fun field =>
        (recordedFor steps field).map fun message => field ++ ": " ++ message)

theorem every_message_is_kept_in_order (steps : List Step) :
    KeepsRecords (after steps) steps where
  messages := get_after steps
  contained := contains_after_iff steps
  filled _ member := (entry_of_after member).2
  passes := (to_result_eq_ok_iff _).trans (after_is_empty_iff steps)
  fails := to_result_of_failure
  handsOn := check_eq_some_iff _
  unchanged _ := rfl
  text := by
    have present : ∀ field, field ∈ (after steps).fields ↔ recordedFor steps field ≠ [] := by
      intro field
      rw [mem_fields_iff, contains_after_iff]
    have written := text_eq (after steps)
    rw [lines_after] at written
    exact ⟨(after steps).fields, fields_ascend steps, present, written⟩

example :
    (after [.add "price" "1", .push ⟨"name", .missing⟩, .check (.ok ()), .add "price" "2"]).text =
      "name: This field is required.; price: 1; price: 2" := by
  decide +kernel

end SupplyCatalog.FieldErrors
