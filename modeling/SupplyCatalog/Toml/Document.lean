import SupplyCatalog.Toml.Scalar

/-!
# TOML documents

A document is a sequence of lines: blank ones, comments, headers in brackets, and keys with their
values. `Toml.parse?` reads a whole text and puts every value into the table that the last header
has opened. Arrays may run over several lines, tables in braces may not. Values nest less than 80
deep.
-/

namespace SupplyCatalog.Toml

/-! ## Blanks and comments -/

def isBlank (c : Char) : Bool := c == ' ' || c == '\t'

def skipBlanks (chars : List Char) : List Char := chars.dropWhile isBlank

def skipLines (inComment : Bool) : List Char → List Char
  | [] => []
  | c :: rest =>
      if inComment && isPlain c then skipLines true rest
      else if c = '\n' then skipLines false rest
      else if c = '\r' && rest.head? = some '\n' then skipLines false rest
      else if inComment then c :: rest
      else if isBlank c then skipLines false rest
      else if c = '#' then skipLines true rest
      else c :: rest

/-- What follows the end of a line, which may carry a comment. -/
def afterLine? (chars : List Char) : Option (List Char) :=
  let rest := match skipBlanks chars with
    | '#' :: rest => rest.dropWhile isPlain
    | rest => rest
  match rest with
  | [] => some []
  | '\n' :: rest => some rest
  | '\r' :: '\n' :: rest => some rest
  | _ => none

/-! ## Keys -/

def isBareKeyChar (c : Char) : Bool :=
  Text.isLetter c || Text.isDigit c || c == '_' || c == '-'

def readSimpleKey? : List Char → Option (String × List Char)
  | '"' :: rest => readBasic? [] rest
  | '\'' :: rest => readLiteral? [] rest
  | chars =>
      match chars.span isBareKeyChar with
      | ([], _) => none
      | (key, rest) => some (String.ofList key, rest)

def readParts? (read : List String) (chars : List Char) : (fuel : Nat) →
    Option (List String × List Char)
  | 0 => none
  | fuel + 1 => do
      let (part, rest) ← readSimpleKey? (skipBlanks chars)
      match skipBlanks rest with
      | '.' :: rest => readParts? (read ++ [part]) rest fuel
      | rest => return (read ++ [part], rest)

def depthLimit : Nat := 80

/-- The tables that a key passes, and its last part. -/
structure Key where
  path : List String
  name : String
deriving DecidableEq

def readKey? (chars : List Char) : Option (Key × List Char) := do
  let (parts, rest) ← readParts? [] chars depthLimit
  match parts.getLast? with
  | some name => if parts.length < depthLimit then some (⟨parts.dropLast, name⟩, rest) else none
  | none => none

/-! ## Values -/

def readScalar? : List Char → Option (Toml × List Char)
  | 't' :: 'r' :: 'u' :: 'e' :: rest => some (.boolean true, rest)
  | 'f' :: 'a' :: 'l' :: 's' :: 'e' :: rest => some (.boolean false, rest)
  | chars =>
      match readText? chars with
      | some (text, rest) => some (.string text, rest)
      | none =>
          match afterMoment? chars with
          | some rest => some (.moment, rest)
          | none => readNumber? chars

mutual

/-- A value at the head of the text. `depth` counts the levels still allowed, `fuel` the steps. -/
def readValue? (fuel depth : Nat) (chars : List Char) : Option (Toml × List Char) :=
  match fuel with
  | 0 => none
  | fuel + 1 =>
      match chars with
      | '[' :: rest =>
          if depth ≤ 1 then none
          else
            match skipLines false rest with
            | ']' :: rest => some (.array [], rest)
            | rest => readItems? fuel (depth - 1) [] rest
      | '{' :: rest =>
          if depth ≤ 1 then none
          else
            match skipBlanks rest with
            | '}' :: rest => some (.table .inline [], rest)
            | rest => readFields? fuel (depth - 1) [] rest
      | chars => readScalar? chars

/-- One more item and what follows it; a comma may stand behind the last one. -/
def readItems? (fuel depth : Nat) (read : List Toml) (chars : List Char) :
    Option (Toml × List Char) :=
  match fuel with
  | 0 => none
  | fuel + 1 =>
      match readValue? fuel depth chars with
      | none => none
      | some (item, rest) =>
          match skipLines false rest with
          | ',' :: rest =>
              match skipLines false rest with
              | ']' :: rest => some (.array (item :: read).reverse, rest)
              | rest => readItems? fuel depth (item :: read) rest
          | ']' :: rest => some (.array (item :: read).reverse, rest)
          | _ => none

def readFields? (fuel depth : Nat) (read : Entries) (chars : List Char) :
    Option (Toml × List Char) :=
  match fuel with
  | 0 => none
  | fuel + 1 =>
      match readKey? chars with
      | some (key, '=' :: rest) =>
          match readValue? fuel depth (skipBlanks rest) with
          | none => none
          | some (value, rest) =>
              match assign? read key.path key.name value, skipBlanks rest with
              | some read, ',' :: rest => readFields? fuel depth read rest
              | some read, '}' :: rest => some (.table .inline read, rest)
              | _, _ => none
      | _ => none

end

/-! ## Lines -/

/-- The document so far, and the path of the table that is open. -/
structure Reading where
  root : Entries
  openPath : List String

def Reading.openTable? (reading : Reading) (key : Key) : Option Reading := do
  return ⟨← within? (Toml.openTable? key.name) reading.root key.path, key.path ++ [key.name]⟩

def Reading.openElement? (reading : Reading) (key : Key) : Option Reading := do
  return ⟨← within? (Toml.openElement? key.name) reading.root key.path, key.path ++ [key.name]⟩

def Reading.assign? (reading : Reading) (key : Key) (value : Toml) : Option Reading := do
  let change (entries : Entries) : Option Entries := Toml.assign? entries key.path key.name value
  return { reading with root := ← within? change reading.root reading.openPath }

/-- A header, or a key with its value, and what follows its line. -/
def readLine? (reading : Reading) (chars : List Char) : Option (Reading × List Char) :=
  match chars with
  | '[' :: '[' :: rest => do
      let (key, rest) ← readKey? rest
      match rest with
      | ']' :: ']' :: rest => return (← reading.openElement? key, ← afterLine? rest)
      | _ => none
  | '[' :: rest => do
      let (key, rest) ← readKey? rest
      match rest with
      | ']' :: rest => return (← reading.openTable? key, ← afterLine? rest)
      | _ => none
  | chars => do
      let (key, rest) ← readKey? chars
      match rest with
      | '=' :: rest =>
          let rest := skipBlanks rest
          let (value, rest) ← readValue? (2 * rest.length + 2) depthLimit rest
          return (← reading.assign? key value, ← afterLine? rest)
      | _ => none

/-- Reads line by line; every line takes at least one character. -/
def readDocument? (reading : Reading) (chars : List Char) : (fuel : Nat) → Option Entries
  | 0 => none
  | fuel + 1 =>
      match skipLines false chars with
      | [] => some reading.root
      | chars =>
          match readLine? reading chars with
          | some (reading, rest) => readDocument? reading rest fuel
          | none => none

/-- The root table of a document, which may begin with a byte order mark. -/
def parse? (text : String) : Option Entries :=
  let chars := match text.toList with
    | '\uFEFF' :: rest => rest
    | chars => chars
  readDocument? ⟨[], []⟩ chars (chars.length + 1)

end SupplyCatalog.Toml
