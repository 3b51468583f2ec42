import SupplyCatalog.Json.Basic
import SupplyCatalog.Text.Hexadecimal

/-!
# Writing JSON

The compact form: no spaces, fields in their order, and an escape only where the grammar needs
one.
-/

namespace SupplyCatalog.Json

def escaped (c : Char) : List Char :=
  if c = '"' then ['\\', '"']
  else if c = '\\' then ['\\', '\\']
  else if c = '\n' then ['\\', 'n']
  else if c = '\r' then ['\\', 'r']
  else if c = '\t' then ['\\', 't']
  else if c = '\x08' then ['\\', 'b']
  else if c = '\x0c' then ['\\', 'f']
  else if c.toNat < 0x20 then
    ['\\', 'u', '0', '0', Text.lowerHexDigit (c.toNat / 16), Text.lowerHexDigit (c.toNat % 16)]
  else [c]

def quoted (text : String) : String :=
  String.ofList ('"' :: text.toList.foldr (fun c rest => escaped c ++ rest) ['"'])

mutual

def render : Json → String
  | null => "null"
  | bool value => if value then "true" else "false"
  | number value => value.text
  | string value => quoted value
  | array [] => "[]"
  | array (item :: rest) => "[" ++ render item ++ renderItems rest ++ "]"
  | object [] => "\x7b\x7d"
  | object (field :: rest) =>
      "\x7b" ++ quoted field.1 ++ ":" ++ render field.2 ++ renderFields rest ++ "\x7d"

def renderItems : List Json → String
  | [] => ""
  | item :: rest => "," ++ render item ++ renderItems rest

def renderFields : List (String × Json) → String
  | [] => ""
  | field :: rest => "," ++ quoted field.1 ++ ":" ++ render field.2 ++ renderFields rest

end

end SupplyCatalog.Json
