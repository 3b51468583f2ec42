/-!
# TOML values

What a configuration file holds. A table remembers how it came about, because that decides whether a
later header or dotted key may still add to it. Dates and times are accepted, but nothing is read
from them.
-/

namespace SupplyCatalog

inductive TableOrigin
  /-- The table has a header of its own. -/
  | header
  /-- The table has only been passed on the way to another header. -/
  | passing
  /-- The table was made by a dotted key. -/
  | dotted
  /-- The table was written between braces. -/
  | inline
deriving DecidableEq

inductive Toml
  | string (value : String)
  | integer (value : Int)
  | real (value : Float)
  | boolean (value : Bool)
  | moment
  | array (items : List Toml)
  | table (origin : TableOrigin) (entries : List (String × Toml))
  /-- The tables under one repeated header, in order. -/
  | tables (elements : List (List (String × Toml)))

namespace Toml

abbrev Entries := List (String × Toml)

def get? (entries : Entries) (key : String) : Option Toml :=
  (entries.find? fun entry => entry.1 == key).map (·.2)

def set (entries : Entries) (key : String) (value : Toml) : Entries :=
  match entries with
  | [] => [(key, value)]
  | entry :: rest => if entry.1 = key then (key, value) :: rest else entry :: set rest key value

/-- Adds a value under a key that is not there yet. -/
def add? (entries : Entries) (key : String) (value : Toml) : Option Entries :=
  if (get? entries key).isSome then none else some (entries ++ [(key, value)])

/-- Gives a value to a dotted key. Tables on the way are made where they are missing; one with a
header of its own or braces is closed, and the last one has to be made by dotted keys. -/
def assign? (entries : Entries) (path : List String) (key : String) (value : Toml) :
    Option Entries :=
  match path with
  | [] => add? entries key value
  | step :: path =>
      match get? entries step with
      | none => do
          let inner ← assign? [] path key value
          return set entries step (.table .dotted inner)
      | some (.table .dotted inner) => do
          let inner ← assign? inner path key value
          return set entries step (.table .dotted inner)
      | some (.table .passing inner) =>
          if path.isEmpty then none
          else do
            let inner ← assign? inner path key value
            return set entries step (.table .passing inner)
      | some (.tables elements) =>
          if path.isEmpty then none
          else do
            let inner ← assign? (elements.getLastD []) path key value
            return set entries step (.tables (elements.dropLast ++ [inner]))
      | some _ => none

/-- Changes the table that a header path leads to; of repeated tables the last one is meant. -/
def within? (change : Entries → Option Entries) (entries : Entries) (path : List String) :
    Option Entries :=
  match path with
  | [] => change entries
  | step :: path =>
      match get? entries step with
      | none => do
          let inner ← within? change [] path
          return set entries step (.table .passing inner)
      | some (.table .inline _) => none
      | some (.table origin inner) => do
          let inner ← within? change inner path
          return set entries step (.table origin inner)
      | some (.tables elements) => do
          let inner ← within? change (elements.getLastD []) path
          return set entries step (.tables (elements.dropLast ++ [inner]))
      | some _ => none

/-- Opens a table under its header, which may come once, also after headers further down. -/
def openTable? (key : String) (entries : Entries) : Option Entries :=
  match get? entries key with
  | none => some (set entries key (.table .header []))
  | some (.table .passing inner) => some (set entries key (.table .header inner))
  | some _ => none

/-- Opens one more table under a repeated header. -/
def openElement? (key : String) (entries : Entries) : Option Entries :=
  match get? entries key with
  | none => some (set entries key (.tables [[]]))
  | some (.tables elements) => some (set entries key (.tables (elements ++ [[]])))
  | some _ => none

end Toml

end SupplyCatalog
