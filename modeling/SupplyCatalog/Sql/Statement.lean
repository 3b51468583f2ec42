import SupplyCatalog.Sql.Value

/-!
# SQL statements

A statement is its text, in which a question mark stands for every bound value, and the list of
those values in the order of their marks. Names are written in double quotes.
-/

namespace SupplyCatalog.Sql

structure Column where
  table : Option String
  name : String

inductive Comparison
  | equal
  | unequal
  | greater
  | like

inductive Condition
  | compare (column : Column) (comparison : Comparison) (value : Value)
  | sameAs (column other : Column)
  | isNull (column : Column)
  /-- The column holds the key of a row of `table` whose column `name` has the value. -/
  | keyOf (column : Column) (table name : String) (value : Value)
  | all (conditions : List Condition)
  | any (conditions : List Condition)

inductive Selected
  | column (column : Column)
  | condition (condition : Condition)
  | countAll (label : String)
  /-- How many rows of `table` meet the conditions. -/
  | countOf (table : String) (conditions : List Condition) (label : String)
  /-- The sum of a column over the rows of `table` that meet the conditions, or a fallback. -/
  | sumOf (table name : String) (conditions : List Condition) (fallback : Value)
      (label : String)

inductive Order
  | ascending (column : Column)
  /-- By the number that the text of a column stands for. -/
  | ascendingNumber (column : Column)

inductive Statement
  | select (selected : List Selected) (table : Option String) (conditions : List Condition)
      (order : List Order)
  | insert (table : String) (assignments : List (String × Value))
  | update (table : String) (assignments : List (String × Value)) (conditions : List Condition)
  | delete (table : String) (conditions : List Condition)

/-! ## Text -/

def quotedName (name : String) : String := "\"" ++ name ++ "\""

def Column.text (column : Column) : String :=
  match column.table with
  | some table => quotedName table ++ "." ++ quotedName column.name
  | none => quotedName column.name

def Comparison.text : Comparison → String
  | equal => " = ?"
  | unequal => " <> ?"
  | greater => " > ?"
  | like => " LIKE ?"

def joined (separator : String) (texts : List String) : String :=
  String.intercalate separator texts

mutual

def Condition.text : Condition → String
  | compare column comparison _ => column.text ++ comparison.text
  | sameAs column other => column.text ++ " = " ++ other.text
  | isNull column => column.text ++ " IS NULL"
  | keyOf column table name _ =>
      column.text ++ " IN (SELECT \"id\" FROM " ++ quotedName table ++ " WHERE " ++
        quotedName name ++ " = ?)"
  | all conditions => joined " AND " (Condition.texts conditions)
  | any conditions => joined " OR " (Condition.texts conditions)

/-- The text beside other conditions, where groups stand in parentheses. -/
def Condition.groupedText : Condition → String
  | all conditions => "(" ++ joined " AND " (Condition.texts conditions) ++ ")"
  | any conditions => "(" ++ joined " OR " (Condition.texts conditions) ++ ")"
  | compare column comparison value => Condition.text (compare column comparison value)
  | sameAs column other => Condition.text (sameAs column other)
  | isNull column => Condition.text (isNull column)
  | keyOf column table name value => Condition.text (keyOf column table name value)

def Condition.texts : List Condition → List String
  | [] => []
  | condition :: rest => Condition.groupedText condition :: Condition.texts rest

end

def whereText : List Condition → String
  | [] => ""
  | [condition] => " WHERE " ++ condition.text
  | conditions => " WHERE " ++ joined " AND " (Condition.texts conditions)

def Selected.text : Selected → String
  | column shown => shown.text
  | condition shown => shown.text
  | countAll label => "COUNT(*) AS " ++ quotedName label
  | countOf table conditions label =>
      "(SELECT COUNT(" ++ quotedName table ++ ".\"id\") FROM " ++ quotedName table ++
        whereText conditions ++ ") AS " ++ quotedName label
  | sumOf table name conditions _ label =>
      "COALESCE((SELECT SUM(" ++ quotedName table ++ "." ++ quotedName name ++ ") FROM " ++
        quotedName table ++ whereText conditions ++ "), ?) AS " ++ quotedName label

def Order.text : Order → String
  | ascending column => column.text ++ " ASC"
  | ascendingNumber column => "CAST(" ++ column.text ++ " AS REAL) ASC"

def orderText : List Order → String
  | [] => ""
  | order => " ORDER BY " ++ joined ", " (order.map Order.text)

def assignmentsText (assignments : List (String × Value)) : String :=
  joined ", " (assignments.map fun assignment => quotedName assignment.1 ++ " = ?")

namespace Statement

def text : Statement → String
  | select selected table conditions order =>
      "SELECT " ++ joined ", " (selected.map Selected.text) ++
        (match table with | some table => " FROM " ++ quotedName table | none => "") ++
        whereText conditions ++ orderText order
  | insert table assignments =>
      "INSERT INTO " ++ quotedName table ++ " (" ++
        joined ", " (assignments.map fun assignment => quotedName assignment.1) ++
        ") VALUES (" ++ joined ", " (assignments.map fun _ => "?") ++ ")"
  | update table assignments conditions =>
      "UPDATE " ++ quotedName table ++ " SET " ++ assignmentsText assignments ++
        whereText conditions
  | delete table conditions => "DELETE FROM " ++ quotedName table ++ whereText conditions

end Statement

/-! ## Values -/

mutual

def Condition.values : Condition → List Value
  | compare _ _ value => [value]
  | sameAs _ _ => []
  | isNull _ => []
  | keyOf _ _ _ value => [value]
  | all conditions => Condition.valuesOf conditions
  | any conditions => Condition.valuesOf conditions

def Condition.valuesOf : List Condition → List Value
  | [] => []
  | condition :: rest => Condition.values condition ++ Condition.valuesOf rest

end

def Selected.values : Selected → List Value
  | column _ => []
  | condition shown => shown.values
  | countAll _ => []
  | countOf _ conditions _ => Condition.valuesOf conditions
  | sumOf _ _ conditions fallback _ => Condition.valuesOf conditions ++ [fallback]

namespace Statement

/-- The bound values, in the order of their marks in the text. -/
def values : Statement → List Value
  | select selected _ conditions _ =>
      selected.flatMap Selected.values ++ Condition.valuesOf conditions
  | insert _ assignments => assignments.map (·.2)
  | update _ assignments conditions => assignments.map (·.2) ++ Condition.valuesOf conditions
  | delete _ conditions => Condition.valuesOf conditions

def arguments (statement : Statement) : List Argument :=
  statement.values.map Argument.ofValue

end Statement

/-! ## Shorthands -/

def columnOf (table name : String) : Column := ⟨some table, name⟩

def bareColumn (name : String) : Column := ⟨none, name⟩

def hasValue (column : Column) (value : Value) : Condition := .compare column .equal value

def hasKey (table : String) (key : Int) : Condition :=
  hasValue (columnOf table "id") (.ofKey key)

def hasBareKey (key : Int) : Condition := hasValue (bareColumn "id") (.ofKey key)

def otherThan (key : Int) : Condition := .compare (bareColumn "id") .unequal (.ofKey key)

def selectColumns (table : String) (names : List String) : List Selected :=
  names.map fun name => .column (columnOf table name)

def optional {α : Type} (filter : Option α) (condition : α → Condition) : List Condition :=
  match filter with
  | some value => [condition value]
  | none => []

def countWhere (table : String) (conditions : List Condition) : Statement :=
  .select [.countAll "count"] (some table) conditions []

end SupplyCatalog.Sql
