import SupplyCatalog.Number.RealText
import SupplyCatalog.Number.Integer

/-!
# JSON values

A number is whole, when it is written without point or exponent and fits in 64 bits with or
without sign, and otherwise a binary floating-point number. An object lists each of its keys once.
-/

namespace SupplyCatalog

inductive JsonNumber
  | whole (value : Int)
  | real (value : Float)

inductive Json
  | null
  | bool (value : Bool)
  | number (value : JsonNumber)
  | string (value : String)
  | array (items : List Json)
  | object (fields : List (String × Json))

namespace JsonNumber

def text : JsonNumber → String
  | whole value => toString value
  | real value => Number.realText value

def int64? : JsonNumber → Option Int
  | whole value => if Number.fitsInt64 value then some value else none
  | real _ => none

def isZero : JsonNumber → Bool
  | whole value => value == 0
  | real value => value == 0.0

end JsonNumber

namespace Json

instance : Inhabited Json := ⟨null⟩

def int (value : Int) : Json := number (.whole value)

/-- A floating-point number; infinities and NaN have no JSON form and become null. -/
def real (value : Float) : Json :=
  if Number.isFiniteReal value then number (.real value) else null

def optionalString : Option String → Json
  | some value => string value
  | none => null

def optionalInt : Option Int → Json
  | some value => int value
  | none => null

def lookup (fields : List (String × Json)) (key : String) : Option Json :=
  (fields.find? fun field => field.1 == key).map (·.2)

/-- Gives a key its value: in place if the key is there already, else at the end. -/
def setField (fields : List (String × Json)) (key : String) (value : Json) :
    List (String × Json) :=
  match fields with
  | [] => [(key, value)]
  | field :: rest =>
      if field.1 = key then (key, value) :: rest else field :: setField rest key value

def field? (value : Json) (key : String) : Option Json :=
  match value with
  | object fields => lookup fields key
  | _ => none

def string? : Json → Option String
  | string value => some value
  | _ => none

def bool? : Json → Option Bool
  | bool value => some value
  | _ => none

def items? : Json → Option (List Json)
  | array items => some items
  | _ => none

def fields? : Json → Option (List (String × Json))
  | object fields => some fields
  | _ => none

def int64? : Json → Option Int
  | number value => value.int64?
  | _ => none

end Json

end SupplyCatalog
