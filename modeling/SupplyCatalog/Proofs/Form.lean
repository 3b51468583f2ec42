import SupplyCatalog.Proofs.ErrorMap
import SupplyCatalog.Proofs.Payload

/-!
# Forms

A form lists the fields that are read of a payload: the key, whether a full payload has to carry it,
how what stands under it is read, and what is kept of it. All that is reported about a field and all
that is kept of it follows from what stands under its own key.
-/

namespace SupplyCatalog

namespace Value

variable {α : Type} (read : Json → Checked α)

/-- Null is no value. -/
def present : Json → Checked α
  | .null => .error .null
  | value => read value

/-- Null is a value of its own. -/
def orNull : Json → Checked (Option α)
  | .null => .ok none
  | value => (read value).map some

end Value

structure FormField (C : Type) where
  key : String
  isRequired : Bool
  Given : Type
  read : Json → Checked Given
  Held : Type
  /-- What is kept of a value, or of the lack of one. -/
  keep : Option Given → Held
  held : C → Held

/-- A field that is to take the place of one that a record shows. -/
structure Column (C R : Type) where
  key : String
  isRequired : Bool
  Given : Type
  read : Json → Checked Given
  given : C → Option Given
  shown : R → Given

namespace Column

variable {C R α : Type}

def plain (key : String) (isRequired : Bool) (read : Json → Checked α) (given : C → Option α)
    (shown : R → α) : Column C R :=
  ⟨key, isRequired, α, Value.present read, given, shown⟩

def nullable (key : String) (isRequired : Bool) (read : Json → Checked α)
    (given : C → Option (Option α)) (shown : R → Option α) : Column C R :=
  ⟨key, isRequired, Option α, Value.orNull read, given, shown⟩

def field (column : Column C R) : FormField C :=
  ⟨column.key, column.isRequired, column.Given, column.read, Option column.Given, id, column.given⟩

end Column

/-! ## One field -/

/-- What is wrong about what stands under a key, or about nothing standing there. -/
def Payload.fault {α : Type} (required isPartial : Bool) (read : Json → Checked α) :
    Option Json → Option Cause
  | none => if required && !isPartial then some .missing else none
  | some value => match read value with
      | .ok _ => none
      | .error cause => some cause

def Payload.given {α : Type} (read : Json → Checked α) (raw : Option Json) : Option α :=
  raw.bind fun value => (read value).toOption

namespace FormField

variable {C : Type} (field : FormField C)

def fault (isPartial : Bool) (raw : Option Json) : Option Cause :=
  Payload.fault field.isRequired isPartial field.read raw

def kept (raw : Option Json) : field.Held := field.keep (Payload.given field.read raw)

end FormField

namespace Payload

variable {α : Type} (payload : Payload) (key : String) (required : Bool)

/-- The value that is read under a key, and the violation if there is one. -/
def noted (read : Json → Checked α) : Noted (Option α) :=
  ⟨given read (payload.raw key),
    ((fault required payload.isPartial read (payload.raw key)).map (Violation.mk key)).toList⟩

theorem absent_eq (read : Json → Checked α) (nothing : payload.raw key = none) :
    payload.absent key required = payload.noted key required read := by
  unfold absent noted
  rw [nothing]
  simp only [fault]
  split <;> rfl

theorem checked_eq (read : Json → Checked α) {value : Json}
    (there : payload.raw key = some value) :
    checked key (read value) = payload.noted key required read := by
  unfold noted
  rw [there]
  simp only [fault, given, Option.bind_some]
  cases read value <;> rfl

theorem field_eq (read : Json → Checked α) :
    payload.field key required read = payload.noted key required (Value.present read) := by
  unfold field
  split
  case h_1 nothing => exact payload.absent_eq key required _ nothing
  case h_2 null => exact payload.checked_eq key required (Value.present read) null
  case h_3 value notNull there =>
    cases value with
    | null => exact (notNull rfl).elim
    | _ => exact payload.checked_eq key required (Value.present read) there

theorem nullable_eq (read : Json → Checked α) :
    payload.nullable key required read = payload.noted key required (Value.orNull read) := by
  unfold nullable
  split
  case h_1 nothing => exact payload.absent_eq key required _ nothing
  case h_2 null => exact payload.checked_eq key required (Value.orNull read) null
  case h_3 value notNull there =>
    cases value with
    | null => exact (notNull rfl).elim
    | _ => exact payload.checked_eq key required (Value.orNull read) there

theorem field_of_noted {read : Json → Checked α} {violation : Violation}
    (member : violation ∈ (payload.noted key required read).violations) :
    violation.field = key := by
  obtain ⟨cause, _, rfl⟩ := Option.map_eq_some_iff.1 (Option.mem_toList.1 member)
  rfl

theorem noted_congr {a b : Payload} (samePartial : a.isPartial = b.isPartial)
    (sameRaw : a.raw key = b.raw key) (read : Json → Checked α) :
    a.noted key required read = b.noted key required read := by
  rw [noted, noted, samePartial, sameRaw]

end Payload

def FormField.violations {C : Type} (field : FormField C) (payload : Payload) : List Violation :=
  (payload.noted field.key field.isRequired field.read).violations

/-! ## All fields -/

abbrev Form (C : Type) := List (FormField C)

namespace Form

variable {C : Type}

def keys (form : Form C) : List String := form.map (·.key)

/-- What is wrong under a key. Nothing is wrong under a key that the form does not have. -/
def fault (form : Form C) (isPartial : Bool) (fields : List (String × Json)) (key : String) :
    Option Cause :=
  (form.find? fun field => field.key == key).bind fun field =>
    field.fault isPartial (Json.lookup fields key)

def violations (form : Form C) (payload : Payload) : List Violation :=
  form.flatMap (·.violations payload)

/-- A reader goes through the form field by field. What else it reads stands under keys that the
form leaves aside. -/
structure Describes (form : Form C) (aside : List String) (read : Payload → Noted C) : Prop where
  keys_once : form.keys.Nodup
  violations : ∀ payload, ∃ others, (read payload).violations = form.violations payload ++ others ∧
    ∀ violation ∈ others, violation.field ∈ aside
  values : ∀ payload, ∀ field ∈ form,
    field.held (read payload).value = field.kept (payload.raw field.key)
  congr : ∀ a b : Payload, a.isPartial = b.isPartial →
    (∀ key, key ∈ form.keys ∨ key ∈ aside → a.raw key = b.raw key) → read a = read b

end Form

def ServiceError.fieldErrors {C : Type} : Except ServiceError C → FieldErrors
  | .error (.validation errors) => errors
  | _ => .empty

def IsRefused {C : Type} (outcome : Except ServiceError C) : Prop :=
  ∀ changes, outcome ≠ .ok changes

namespace Form

variable {C : Type}

/-- All that is wrong is reported, once and under its own key, and nothing else is. What is wrong
under a key, and what is kept of it, does not depend on what stands under other keys. -/
structure Governs (form : Form C) (aside : List String) (isPartial : Bool)
    (parse : Json → Except ServiceError C) : Prop where
  keys_once : form.keys.Nodup
  ascending : ∀ fields, (ServiceError.fieldErrors (parse (.object fields))).IsAscending
  errors : ∀ fields, ∀ key ∉ aside,
    (ServiceError.fieldErrors (parse (.object fields))).get? key =
      (form.fault isPartial fields key).map fun cause => [cause.message]
  refused_iff : ∀ fields, IsRefused (parse (.object fields)) ↔
    (ServiceError.fieldErrors (parse (.object fields))).isEmpty = false
  values : ∀ fields changes, parse (.object fields) = .ok changes →
    ∀ field ∈ form, field.held changes = field.kept (Json.lookup fields field.key)
  unknown : ∀ fields others,
    (∀ key, key ∈ form.keys ∨ key ∈ aside → Json.lookup fields key = Json.lookup others key) →
      parse (.object fields) = parse (.object others)

/-- A full payload differs from a partial one in nothing but that required keys may not be
absent. -/
structure TakesPartial (form : Form C) (parse : Bool → Json → Except ServiceError C) : Prop where
  governs : ∀ isPartial, form.Governs [] isPartial (parse isPartial)
  refused_iff : ∀ fields, IsRefused (parse false (.object fields)) ↔
    IsRefused (parse true (.object fields)) ∨
      ∃ field ∈ form, field.isRequired = true ∧ Json.lookup fields field.key = none
  same : ∀ fields a b, parse false (.object fields) = .ok a → parse true (.object fields) = .ok b →
    a = b

/-! ## What is recorded -/

section Recorded

variable {form : Form C}

theorem messages_for_field (field : FormField C) (payload : Payload) (key : String) :
    FieldErrors.messagesFor (field.violations payload) key =
      if field.key = key then
        ((field.fault payload.isPartial (payload.raw key)).map Cause.message).toList
      else [] := by
  by_cases same : field.key = key
  · subst same
    rw [if_pos rfl, FormField.violations, Payload.noted, FormField.fault]
    cases Payload.fault field.isRequired payload.isPartial field.read (payload.raw field.key) with
    | none => rfl
    | some cause => simp [FieldErrors.messagesFor, Violation.message]
  · rw [if_neg same]
    apply FieldErrors.messages_for_eq_nil
    intro violation member
    rw [payload.field_of_noted _ _ member]
    exact same

theorem find_of_mem_keys (once : form.keys.Nodup) {field : FormField C} (member : field ∈ form) :
    (form.find? fun other => other.key == field.key) = some field := by
  induction form with
  | nil => cases member
  | cons first rest induction =>
      have notAgain : first.key ∉ Form.keys rest := (List.nodup_cons.1 once).1
      rcases List.mem_cons.1 member with rfl | later
      · simp
      · have different : first.key ≠ field.key := by
          intro same
          rw [same] at notAgain
          exact notAgain (List.mem_map_of_mem later)
        rw [List.find?_cons_of_neg (by simpa using different)]
        exact induction (List.nodup_cons.1 once).2 later

theorem fault_of_mem (once : form.keys.Nodup) {field : FormField C} (member : field ∈ form)
    (isPartial : Bool) (fields : List (String × Json)) :
    form.fault isPartial fields field.key =
      field.fault isPartial (Json.lookup fields field.key) := by
  rw [fault, find_of_mem_keys once member, Option.bind_some]

theorem fault_of_unknown {key : String} (unknown : key ∉ form.keys) (isPartial : Bool)
    (fields : List (String × Json)) : form.fault isPartial fields key = none := by
  have absent : (form.find? fun field => field.key == key) = none := by
    rw [List.find?_eq_none]
    intro field member same
    exact unknown (List.mem_map.2 ⟨field, member, eq_of_beq same⟩)
  rw [fault, absent, Option.bind_none]

/-- At most one message for each field of the form. -/
theorem messages_for_violations (once : form.keys.Nodup) (payload : Payload) (key : String) :
    FieldErrors.messagesFor (form.violations payload) key =
      ((form.fault payload.isPartial payload.fields key).map Cause.message).toList := by
  induction form with
  | nil => rfl
  | cons field rest induction =>
      have later := induction (List.nodup_cons.1 once).2
      rw [violations, List.flatMap_cons, FieldErrors.messages_for_append, messages_for_field]
      rw [violations] at later
      by_cases same : field.key = key
      · subst same
        -- No later field has this key, so all that is recorded for it comes from this one.
        have notAgain : field.key ∉ Form.keys rest := (List.nodup_cons.1 once).1
        rw [later, fault_of_unknown notAgain, if_pos rfl,
          fault_of_mem once List.mem_cons_self]
        exact List.append_nil _
      · have further : Form.fault (field :: rest) payload.isPartial payload.fields key =
            Form.fault rest payload.isPartial payload.fields key := by
          rw [fault, List.find?_cons_of_neg (by simpa using same)]
          rfl
        rw [later, further, if_neg same, List.nil_append]

theorem violations_append (first second : Form C) (payload : Payload) :
    violations (first ++ second) payload = first.violations payload ++ second.violations payload :=
  List.flatMap_append

theorem violations_eq_nil_iff (payload : Payload) :
    form.violations payload = [] ↔
      ∀ field ∈ form, field.fault payload.isPartial (payload.raw field.key) = none := by
  unfold violations FormField.violations Payload.noted
  simp only [List.flatMap_eq_nil_iff, Option.toList_eq_nil_iff, Option.map_eq_none_iff]
  rfl

end Recorded

/-! ## What a reader makes of an object -/

section Reading

variable {form : Form C} {aside : List String} {read : Payload → Noted C}

def parsed (read : Payload → Noted C) (isPartial : Bool) (body : Json) : Except ServiceError C := do
  (read (← Payload.ofJson body isPartial)).finish

theorem field_errors_finish (noted : Noted C) :
    ServiceError.fieldErrors noted.finish = FieldErrors.ofViolations noted.violations := by
  unfold Noted.finish
  split
  · rename_i none
    rw [List.isEmpty_iff.1 none]
    rfl
  · rfl

theorem finish_eq_ok_iff (noted : Noted C) (value : C) :
    noted.finish = .ok value ↔ noted = ⟨value, []⟩ := by
  obtain ⟨read, violations⟩ := noted
  unfold Noted.finish
  cases violations with
  | nil => simp
  | cons first rest => simp

theorem refused_finish_iff (noted : Noted C) : IsRefused noted.finish ↔ noted.violations ≠ [] := by
  unfold Noted.finish
  split
  · rename_i none
    have accepted : ¬IsRefused (.ok noted.value : Except ServiceError C) := fun refused =>
      refused _ rfl
    simp [accepted, List.isEmpty_iff.1 none]
  · rename_i some
    refine iff_of_true ?_ (by simpa using some)
    intro changes same
    cases same

theorem Describes.governs (describes : form.Describes aside read) (isPartial : Bool) :
    form.Governs aside isPartial (parsed read isPartial) where
  keys_once := describes.keys_once
  ascending fields := by
    change (ServiceError.fieldErrors (read ⟨fields, isPartial⟩).finish).IsAscending
    rw [field_errors_finish]
    exact FieldErrors.of_violations_is_ascending _
  errors fields key apart := by
    obtain ⟨others, recorded, inAside⟩ := describes.violations ⟨fields, isPartial⟩
    have elsewhere : ∀ violation ∈ others, violation.field ≠ key := by
      intro violation member same
      exact apart (same ▸ inAside violation member)
    change (ServiceError.fieldErrors (read ⟨fields, isPartial⟩).finish).get? key = _
    rw [field_errors_finish, FieldErrors.get_of_violations, recorded,
      FieldErrors.messages_for_append, FieldErrors.messages_for_eq_nil elsewhere, List.append_nil,
      messages_for_violations describes.keys_once]
    cases form.fault isPartial fields key <;> rfl
  refused_iff fields := by
    change IsRefused (read ⟨fields, isPartial⟩).finish ↔
      (ServiceError.fieldErrors (read ⟨fields, isPartial⟩).finish).isEmpty = false
    rw [refused_finish_iff, field_errors_finish, Bool.eq_false_iff, Ne, Ne,
      FieldErrors.of_violations_is_empty_iff]
  values fields changes accepted := by
    obtain ⟨_, same, _, rfl⟩ := read_of_parsed accepted
    cases same
    exact describes.values _
  unknown fields others same := by
    have alike := describes.congr ⟨fields, isPartial⟩ ⟨others, isPartial⟩ rfl same
    exact congrArg Noted.finish alike

/-- The fields of the form are all that a reader keeps. -/
def Decides (form : Form C) (read : Payload → Noted C) : Prop :=
  ∀ a b : Payload, (∀ field ∈ form, field.held (read a).value = field.held (read b).value) →
    (read a).value = (read b).value

structure IsRead (form : Form C) (payload : Payload) (noted : Noted C) : Prop where
  violations : noted.violations = form.violations payload
  values : ∀ field ∈ form, field.held noted.value = field.kept (payload.raw field.key)

theorem IsRead.congr {a b : Payload} (decides : form.Decides read) (first : form.IsRead a (read a))
    (second : form.IsRead b (read b)) (samePartial : a.isPartial = b.isPartial)
    (sameRaw : ∀ key ∈ form.keys, a.raw key = b.raw key) : read a = read b := by
  have raw (field : FormField C) (member : field ∈ form) : a.raw field.key = b.raw field.key :=
    sameRaw field.key (List.mem_map_of_mem member)
  have value : (read a).value = (read b).value := by
    apply decides
    intro field member
    rw [first.values field member, second.values field member, raw field member]
  have violations : (read a).violations = (read b).violations := by
    rw [first.violations, second.violations]
    apply List.flatMap_congr
    intro field member
    rw [FormField.violations, FormField.violations,
      Payload.noted_congr _ _ samePartial (raw field member)]
  calc
    read a = ⟨(read a).value, (read a).violations⟩ := rfl
    _ = ⟨(read b).value, (read b).violations⟩ := by rw [value, violations]
    _ = read b := rfl

theorem describes_of_is_read (once : form.keys.Nodup) (decides : form.Decides read)
    (isRead : ∀ payload, form.IsRead payload (read payload)) : form.Describes [] read where
  keys_once := once
  violations payload :=
    ⟨[], by rw [(isRead payload).violations, List.append_nil], List.forall_mem_nil _⟩
  values payload := (isRead payload).values
  congr a b samePartial sameRaw :=
    (isRead a).congr decides (isRead b) samePartial fun key known => sameRaw key (.inl known)

theorem Describes.records (describes : form.Describes [] read) (payload : Payload) :
    (read payload).violations = form.violations payload := by
  obtain ⟨others, recorded, nowhere⟩ := describes.violations payload
  have none : others = [] := by
    rw [List.eq_nil_iff_forall_not_mem]
    intro violation member
    cases nowhere violation member
  rw [recorded, none, List.append_nil]

/-- A payload is refused for a field that is wrong, and for nothing else. -/
theorem Describes.refused_iff (describes : form.Describes [] read) (isPartial : Bool)
    (fields : List (String × Json)) :
    IsRefused (parsed read isPartial (.object fields)) ↔
      ∃ field ∈ form, field.fault isPartial (Json.lookup fields field.key) ≠ none := by
  change IsRefused (read ⟨fields, isPartial⟩).finish ↔ _
  rw [refused_finish_iff, describes.records, Ne, violations_eq_nil_iff]
  simp only [not_forall, exists_prop]
  rfl

theorem fault_full_iff (field : FormField C) (raw : Option Json) :
    field.fault false raw ≠ none ↔
      field.fault true raw ≠ none ∨ field.isRequired = true ∧ raw = none := by
  unfold FormField.fault Payload.fault
  cases raw with
  | none => simp
  | some value => simp

theorem Describes.takes_partial (describes : form.Describes [] read) (decides : form.Decides read) :
    form.TakesPartial (parsed read) where
  governs := describes.governs
  refused_iff fields := by
    rw [describes.refused_iff, describes.refused_iff]
    constructor
    · rintro ⟨field, member, wrong⟩
      rcases (fault_full_iff field _).1 wrong with wrong | absent
      · exact .inl ⟨field, member, wrong⟩
      · exact .inr ⟨field, member, absent⟩
    · rintro (⟨field, member, wrong⟩ | ⟨field, member, absent⟩)
      · exact ⟨field, member, (fault_full_iff field _).2 (.inl wrong)⟩
      · exact ⟨field, member, (fault_full_iff field _).2 (.inr absent)⟩
  same fields a b full part := by
    obtain ⟨_, object, _, rfl⟩ := read_of_parsed full
    obtain ⟨_, sameObject, _, rfl⟩ := read_of_parsed part
    cases object
    cases sameObject
    apply decides
    intro field member
    rw [describes.values _ field member, describes.values _ field member]
    rfl

end Reading

end Form

end SupplyCatalog
