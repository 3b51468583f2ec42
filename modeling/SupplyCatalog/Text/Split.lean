/-!
# Splitting at marks

The pieces of a list between the members that mark a boundary. A list without marks is one piece,
and a mark at either end leaves an empty piece there. A list may also be divided in two, at its
first or at its last mark.
-/

namespace SupplyCatalog.Text

def splitWhere {α : Type} (isMark : α → Bool) : List α → List (List α)
  | [] => [[]]
  | item :: rest =>
      match splitWhere isMark rest with
      | [] => [[]]
      | first :: others =>
          if isMark item then [] :: first :: others else (item :: first) :: others

/-- What stands before the first mark and what follows it, if there is a mark. -/
def splitFirst? {α : Type} (isMark : α → Bool) : List α → Option (List α × List α)
  | [] => none
  | item :: rest =>
      if isMark item then some ([], rest)
      else
        match splitFirst? isMark rest with
        | some (before, after) => some (item :: before, after)
        | none => none

def splitLast? {α : Type} (isMark : α → Bool) : List α → Option (List α × List α)
  | [] => none
  | item :: rest =>
      match splitLast? isMark rest with
      | some (before, after) => some (item :: before, after)
      | none => if isMark item then some ([], rest) else none

def splitSlashes (text : String) : List String :=
  (splitWhere (· == '/') text.toList).map String.ofList

end SupplyCatalog.Text
