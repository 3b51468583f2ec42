import Mathlib.Algebra.GroupWithZero.Nat
import SupplyCatalog.Sql.Statement

/-!
# The text of a statement

The text of a statement shows its names and the shape of its conditions, and nothing of the values
that it binds: it stays the same when every value is forgotten. It has one question mark for each
bound value, as long as no table, column or label has one in its name.
-/

namespace SupplyCatalog.Sql

/-! ## Statements without their values -/

mutual

/-- The condition with a missing value in place of each of its values. -/
def Condition.outline : Condition → Condition
  | compare column comparison _ => compare column comparison (.text none)
  | sameAs column other => sameAs column other
  | isNull column => isNull column
  | keyOf column table name _ => keyOf column table name (.text none)
  | all conditions => all (Condition.outlines conditions)
  | any conditions => any (Condition.outlines conditions)

def Condition.outlines : List Condition → List Condition
  | [] => []
  | condition :: rest => Condition.outline condition :: Condition.outlines rest

end

def Selected.outline : Selected → Selected
  | column shown => column shown
  | condition shown => condition shown.outline
  | countAll label => countAll label
  | countOf table conditions label => countOf table (Condition.outlines conditions) label
  | sumOf table name conditions _ label =>
      sumOf table name (Condition.outlines conditions) (.text none) label

def outlineAssignment (assignment : String × Value) : String × Value :=
  (assignment.1, .text none)

def Statement.outline : Statement → Statement
  | select selected table conditions order =>
      select (selected.map Selected.outline) table (Condition.outlines conditions) order
  | insert table assignments => insert table (assignments.map outlineAssignment)
  | update table assignments conditions =>
      update table (assignments.map outlineAssignment) (Condition.outlines conditions)
  | delete table conditions => delete table (Condition.outlines conditions)

theorem Condition.outlines_append (left right : List Condition) :
    Condition.outlines (left ++ right) = Condition.outlines left ++ Condition.outlines right := by
  induction left with
  | nil => rfl
  | cons condition rest induction => simp [outlines, induction]

/-- A filter shows in the outline by being there. -/
theorem outlines_optional {Filter : Type} {left right : Option Filter}
    {condition : Filter → Condition} (same : left.isSome = right.isSome)
    (apart : ∀ one other, (condition one).outline = (condition other).outline) :
    Condition.outlines (optional left condition) =
      Condition.outlines (optional right condition) := by
  cases left with
  | none =>
      cases right with
      | none => rfl
      | some other => cases same
  | some one =>
      cases right with
      | none => cases same
      | some other => simp only [optional, Condition.outlines, apart one other]

mutual

theorem Condition.text_outline (condition : Condition) :
    condition.outline.text = condition.text := by
  match condition with
  | compare column comparison value => simp only [outline, text]
  | sameAs column other => simp only [outline]
  | isNull column => simp only [outline]
  | keyOf column table name value => simp only [outline, text]
  | all conditions => simp only [outline, text, texts_outlines conditions]
  | any conditions => simp only [outline, text, texts_outlines conditions]

theorem Condition.grouped_text_outline (condition : Condition) :
    condition.outline.groupedText = condition.groupedText := by
  match condition with
  | compare column comparison value => simp only [outline, groupedText, text]
  | sameAs column other => simp only [outline]
  | isNull column => simp only [outline]
  | keyOf column table name value => simp only [outline, groupedText, text]
  | all conditions => simp only [outline, groupedText, texts_outlines conditions]
  | any conditions => simp only [outline, groupedText, texts_outlines conditions]

theorem Condition.texts_outlines (conditions : List Condition) :
    Condition.texts (Condition.outlines conditions) = Condition.texts conditions := by
  match conditions with
  | [] => simp only [outlines]
  | condition :: rest =>
      simp only [outlines, texts, grouped_text_outline condition, texts_outlines rest]

end

theorem where_text_outlines (conditions : List Condition) :
    whereText (Condition.outlines conditions) = whereText conditions := by
  match conditions with
  | [] => simp only [Condition.outlines]
  | [condition] => simp only [Condition.outlines, whereText, Condition.text_outline]
  | first :: second :: rest =>
      have texts := Condition.texts_outlines (first :: second :: rest)
      simp only [Condition.outlines] at texts
      simp only [Condition.outlines, whereText, texts]

theorem Selected.text_outline (selected : Selected) : selected.outline.text = selected.text := by
  cases selected with
  | column shown => rfl
  | condition shown => exact shown.text_outline
  | countAll label => rfl
  | countOf table conditions label =>
      unfold outline text
      simp only [where_text_outlines]
  | sumOf table name conditions fallback label =>
      unfold outline text
      simp only [where_text_outlines]

theorem Statement.text_outline (statement : Statement) :
    statement.outline.text = statement.text := by
  cases statement with
  | select selected table conditions order =>
      have texts :
          (selected.map Selected.outline).map Selected.text = selected.map Selected.text := by
        simp only [List.map_map, Function.comp_def, Selected.text_outline]
      unfold outline text
      simp only [texts, where_text_outlines]
  | insert table assignments =>
      unfold outline text
      simp only [List.map_map, Function.comp_def, outlineAssignment]
  | update table assignments conditions =>
      unfold outline text
      simp only [assignmentsText, List.map_map, Function.comp_def,
        outlineAssignment, where_text_outlines]
  | delete table conditions =>
      unfold outline text
      simp only [where_text_outlines]

/-- Statements that differ in nothing but their values have one text. -/
theorem Statement.text_of_same_outline {first second : Statement}
    (same : first.outline = second.outline) : first.text = second.text := by
  rw [← first.text_outline, same, second.text_outline]

/-! ## Question marks -/

def marks (text : String) : Nat := text.toList.count '?'

@[simp] theorem marks_append (left right : String) :
    marks (left ++ right) = marks left + marks right := by
  simp only [marks, String.toList_append, List.count_append]

theorem marks_joined {separator : String} (unmarked : marks separator = 0) (texts : List String) :
    marks (joined separator texts) = (texts.map marks).sum := by
  induction texts with
  | nil => rfl
  | cons text rest induction =>
      cases rest with
      | nil => simp [joined, marks]
      | cons next rest =>
          have step : joined separator (text :: next :: rest) =
              text ++ separator ++ joined separator (next :: rest) := by
            simp [joined, String.intercalate_cons_of_ne_nil]
          rw [step, marks_append, marks_append, induction, unmarked]
          simp

def Column.names (column : Column) : List String := column.table.toList ++ [column.name]

mutual

@[simp] def Condition.names : Condition → List String
  | compare column _ _ => column.names
  | sameAs column other => column.names ++ other.names
  | isNull column => column.names
  | keyOf column table name _ => column.names ++ [table, name]
  | all conditions => Condition.namesOf conditions
  | any conditions => Condition.namesOf conditions

@[simp] def Condition.namesOf : List Condition → List String
  | [] => []
  | condition :: rest => Condition.names condition ++ Condition.namesOf rest

end

@[simp] def Selected.names : Selected → List String
  | column shown => shown.names
  | condition shown => shown.names
  | countAll label => [label]
  | countOf table conditions label => [table, label] ++ Condition.namesOf conditions
  | sumOf table name conditions _ label => [table, name, label] ++ Condition.namesOf conditions

@[simp] def Order.names : Order → List String
  | ascending column => column.names
  | ascendingNumber column => column.names

@[simp] def Statement.names : Statement → List String
  | select selected table conditions order =>
      selected.flatMap Selected.names ++ table.toList ++ Condition.namesOf conditions ++
        order.flatMap Order.names
  | insert table assignments => table :: assignments.map (·.1)
  | update table assignments conditions =>
      table :: assignments.map (·.1) ++ Condition.namesOf conditions
  | delete table conditions => table :: Condition.namesOf conditions

@[simp] theorem Condition.names_of_append (left right : List Condition) :
    Condition.namesOf (left ++ right) = Condition.namesOf left ++ Condition.namesOf right := by
  induction left with
  | nil => rfl
  | cons condition rest induction => simp [induction]

@[simp] theorem names_column_of (table name : String) :
    (columnOf table name).names = [table, name] := rfl

@[simp] theorem names_bare_column (name : String) : (bareColumn name).names = [name] := rfl

@[simp] theorem names_has_value (column : Column) (value : Value) :
    (hasValue column value).names = column.names := rfl

@[simp] theorem names_has_key (table : String) (key : Int) :
    (hasKey table key).names = [table, "id"] := rfl

@[simp] theorem names_has_bare_key (key : Int) : (hasBareKey key).names = ["id"] := rfl

@[simp] theorem names_other_than (key : Int) : (otherThan key).names = ["id"] := rfl

/-- None of the names has a question mark. -/
def Unmarked (names : List String) : Prop := ∀ name ∈ names, marks name = 0

@[simp] theorem unmarked_nil : Unmarked [] := by simp [Unmarked]

@[simp] theorem unmarked_cons {name : String} {rest : List String} :
    Unmarked (name :: rest) ↔ marks name = 0 ∧ Unmarked rest := by simp [Unmarked]

@[simp] theorem unmarked_append {left right : List String} :
    Unmarked (left ++ right) ↔ Unmarked left ∧ Unmarked right := by
  simp [Unmarked, or_imp, forall_and]

@[simp] theorem unmarked_optional {Filter : Type} {filter : Option Filter}
    {condition : Filter → Condition} :
    Unmarked (Condition.namesOf (optional filter condition)) ↔
      ∀ value, filter = some value → Unmarked (condition value).names := by
  cases filter <;> simp [optional]

theorem Unmarked.of_flat_map {Item : Type} {items : List Item} {names : Item → List String}
    (unmarked : Unmarked (items.flatMap names)) {item : Item} (member : item ∈ items) :
    Unmarked (names item) :=
  fun name found => unmarked name (List.mem_flatMap.mpr ⟨item, member, found⟩)

@[simp] theorem marks_quoted_name (name : String) : marks (quotedName name) = marks name := by
  have quote : marks "\"" = 0 := by decide
  simp [quotedName, quote]

theorem Column.marks_text {column : Column} (unmarked : Unmarked column.names) :
    marks column.text = 0 := by
  have dot : marks "." = 0 := by decide
  obtain ⟨table, name⟩ := column
  cases table <;> simp_all [Column.names, Column.text]

theorem Comparison.marks_text (comparison : Comparison) : marks comparison.text = 1 := by
  cases comparison <;> decide

theorem marks_and : marks " AND " = 0 := by decide

theorem marks_or : marks " OR " = 0 := by decide

theorem marks_comma : marks ", " = 0 := by decide

mutual

theorem Condition.marks_text (condition : Condition) (unmarked : Unmarked condition.names) :
    marks condition.text = condition.values.length := by
  match condition with
  | compare column comparison value =>
      simp [text, values, column.marks_text unmarked, comparison.marks_text]
  | sameAs column other =>
      simp only [names, unmarked_append] at unmarked
      have equals : marks " = " = 0 := by decide
      simp [text, values, equals, column.marks_text unmarked.1, other.marks_text unmarked.2]
  | isNull column =>
      have null : marks " IS NULL" = 0 := by decide
      simp [text, values, null, column.marks_text unmarked]
  | keyOf column table name value =>
      simp only [names, unmarked_append, unmarked_cons] at unmarked
      obtain ⟨plain, tablePlain, namePlain, -⟩ := unmarked
      have opening : marks " IN (SELECT \"id\" FROM " = 0 := by decide
      have middle : marks " WHERE " = 0 := by decide
      have closing : marks " = ?)" = 1 := by decide
      simp [text, values, opening, middle, closing, column.marks_text plain, tablePlain, namePlain]
  | all conditions =>
      simp only [text, values, marks_joined marks_and, sum_marks_texts conditions unmarked]
  | any conditions =>
      simp only [text, values, marks_joined marks_or, sum_marks_texts conditions unmarked]

theorem Condition.marks_grouped_text (condition : Condition) (unmarked : Unmarked condition.names) :
    marks condition.groupedText = condition.values.length := by
  have opening : marks "(" = 0 := by decide
  have closing : marks ")" = 0 := by decide
  match condition with
  | compare column comparison value =>
      simpa only [groupedText] using Condition.marks_text _ unmarked
  | sameAs column other =>
      simpa only [groupedText] using Condition.marks_text _ unmarked
  | isNull column =>
      simpa only [groupedText] using Condition.marks_text _ unmarked
  | keyOf column table name value =>
      simpa only [groupedText] using Condition.marks_text _ unmarked
  | all conditions =>
      simp [groupedText, values, opening, closing, marks_joined marks_and,
        sum_marks_texts conditions unmarked]
  | any conditions =>
      simp [groupedText, values, opening, closing, marks_joined marks_or,
        sum_marks_texts conditions unmarked]

theorem Condition.sum_marks_texts (conditions : List Condition)
    (unmarked : Unmarked (Condition.namesOf conditions)) :
    ((Condition.texts conditions).map marks).sum = (Condition.valuesOf conditions).length := by
  match conditions with
  | [] => simp [texts, valuesOf]
  | condition :: rest =>
      simp only [namesOf, unmarked_append] at unmarked
      simp [texts, valuesOf, marks_grouped_text condition unmarked.1,
        sum_marks_texts rest unmarked.2]

end

theorem marks_where_text {conditions : List Condition}
    (unmarked : Unmarked (Condition.namesOf conditions)) :
    marks (whereText conditions) = (Condition.valuesOf conditions).length := by
  have wherePlain : marks " WHERE " = 0 := by decide
  match conditions with
  | [] => rfl
  | [condition] =>
      simp only [Condition.namesOf, unmarked_append] at unmarked
      simp [whereText, Condition.valuesOf, wherePlain, condition.marks_text unmarked.1]
  | first :: second :: rest =>
      simp only [whereText, marks_append, wherePlain, Nat.zero_add, marks_joined marks_and,
        Condition.sum_marks_texts _ unmarked]

theorem Selected.marks_text {selected : Selected} (unmarked : Unmarked selected.names) :
    marks selected.text = selected.values.length := by
  cases selected with
  | column shown => exact shown.marks_text unmarked
  | condition shown => exact shown.marks_text unmarked
  | countAll label =>
      have counted : marks "COUNT(*) AS " = 0 := by decide
      simp only [names, unmarked_cons] at unmarked
      unfold text
      simp [values, counted, unmarked.1]
  | countOf table conditions label =>
      simp only [names, unmarked_append, unmarked_cons] at unmarked
      obtain ⟨⟨tablePlain, labelPlain, -⟩, conditionsPlain⟩ := unmarked
      have opening : marks "(SELECT COUNT(" = 0 := by decide
      have middle : marks ".\"id\") FROM " = 0 := by decide
      have closing : marks ") AS " = 0 := by decide
      unfold text
      simp [values, opening, middle, closing, tablePlain, labelPlain,
        marks_where_text conditionsPlain]
  | sumOf table name conditions fallback label =>
      simp only [names, unmarked_append, unmarked_cons] at unmarked
      obtain ⟨⟨tablePlain, namePlain, labelPlain, -⟩, conditionsPlain⟩ := unmarked
      have opening : marks "COALESCE((SELECT SUM(" = 0 := by decide
      have dot : marks "." = 0 := by decide
      have middle : marks ") FROM " = 0 := by decide
      have closing : marks "), ?) AS " = 1 := by decide
      unfold text
      simp [values, opening, dot, middle, closing, tablePlain, namePlain, labelPlain,
        marks_where_text conditionsPlain]

theorem Order.marks_text {order : Order} (unmarked : Unmarked order.names) :
    marks order.text = 0 := by
  cases order with
  | ascending column =>
      have ending : marks " ASC" = 0 := by decide
      simp [text, ending, column.marks_text unmarked]
  | ascendingNumber column =>
      have opening : marks "CAST(" = 0 := by decide
      have ending : marks " AS REAL) ASC" = 0 := by decide
      simp [text, opening, ending, column.marks_text unmarked]

/-- Where each item is shown with equally many marks, joining them multiplies. -/
theorem marks_joined_each {Item : Type} {items : List Item} (shown : Item → String) {count : Nat}
    (each : ∀ item ∈ items, marks (shown item) = count) :
    marks (joined ", " (items.map shown)) = items.length * count := by
  have counts : items.map (marks ∘ shown) = items.map fun _ => count := List.map_congr_left each
  rw [marks_joined marks_comma, List.map_map, counts, List.map_const', List.sum_replicate_nat]

theorem marks_order_text {order : List Order} (unmarked : Unmarked (order.flatMap Order.names)) :
    marks (orderText order) = 0 := by
  have opening : marks " ORDER BY " = 0 := by decide
  cases order with
  | nil => rfl
  | cons first rest =>
      have each : ∀ order ∈ first :: rest, marks order.text = 0 :=
        fun order member => Order.marks_text (unmarked.of_flat_map member)
      simp only [orderText, marks_append, opening, marks_joined_each _ each, Nat.mul_zero]

theorem marks_selected {selected : List Selected}
    (unmarked : Unmarked (selected.flatMap Selected.names)) :
    marks (joined ", " (selected.map Selected.text)) =
      (selected.flatMap Selected.values).length := by
  rw [marks_joined marks_comma, List.length_flatMap, List.map_map]
  congr 1
  refine List.map_congr_left fun shown member => ?_
  exact Selected.marks_text (unmarked.of_flat_map member)

theorem Unmarked.assignment {assignments : List (String × Value)}
    (unmarked : Unmarked (assignments.map (·.1))) {assignment : String × Value}
    (member : assignment ∈ assignments) : marks assignment.1 = 0 :=
  unmarked _ (List.mem_map_of_mem member)

/-- A statement has one question mark for each value that it binds. -/
theorem Statement.marks_text {statement : Statement} (unmarked : Unmarked statement.names) :
    marks statement.text = statement.values.length := by
  cases statement with
  | select selected table conditions order =>
      simp only [names, unmarked_append] at unmarked
      obtain ⟨⟨⟨shownPlain, tablePlain⟩, conditionsPlain⟩, orderPlain⟩ := unmarked
      have opening : marks "SELECT " = 0 := by decide
      have word : marks " FROM " = 0 := by decide
      cases table with
      | none =>
          unfold text
          simp [values, opening, marks_selected shownPlain, marks_where_text conditionsPlain,
            marks_order_text orderPlain]
      | some table =>
          simp only [Option.toList_some, unmarked_cons] at tablePlain
          unfold text
          simp [values, opening, word, tablePlain.1, marks_selected shownPlain,
            marks_where_text conditionsPlain, marks_order_text orderPlain]
  | insert table assignments =>
      simp only [names, unmarked_cons] at unmarked
      have opening : marks "INSERT INTO " = 0 := by decide
      have bracket : marks " (" = 0 := by decide
      have middle : marks ") VALUES (" = 0 := by decide
      have closing : marks ")" = 0 := by decide
      have columns := marks_joined_each (fun assignment => quotedName assignment.1)
        fun assignment member => (marks_quoted_name _).trans (unmarked.2.assignment member)
      have bound : marks (joined ", " (assignments.map fun _ => "?")) = assignments.length * 1 :=
        marks_joined_each _ fun _ _ => by decide
      unfold text
      simp only [values, marks_append, marks_quoted_name, opening, bracket, middle, closing,
        unmarked.1, columns, bound, List.length_map]
      omega
  | update table assignments conditions =>
      simp only [names, List.cons_append, unmarked_cons, unmarked_append] at unmarked
      obtain ⟨tablePlain, assignedPlain, conditionsPlain⟩ := unmarked
      have opening : marks "UPDATE " = 0 := by decide
      have middle : marks " SET " = 0 := by decide
      have assigned : marks (assignmentsText assignments) = assignments.length * 1 := by
        have mark : marks " = ?" = 1 := by decide
        refine marks_joined_each _ fun assignment member => ?_
        simp [mark, assignedPlain.assignment member]
      unfold text
      simp [values, opening, middle, tablePlain, assigned,
        marks_where_text conditionsPlain]
  | delete table conditions =>
      simp only [names, unmarked_cons] at unmarked
      have opening : marks "DELETE FROM " = 0 := by decide
      unfold text
      simp [values, opening, unmarked.1, marks_where_text unmarked.2]

end SupplyCatalog.Sql
