import SupplyCatalog.Image
import SupplyCatalog.Text.Split

/-!
# Media files

The files and directories below the media root. A path is the list of its components; directories
are made on the way to a file and stay when the file goes. A path is written as text with slashes
between its components.

The file system itself is taken not to fail. It takes every name that is not too long, and a file
that has been opened takes all of its content.
-/

namespace SupplyCatalog

abbrev MediaPath := List String

namespace MediaPath

/-- The components between the slashes; empty ones and single dots lead nowhere else. Texts of paths
are taken to name what is below the root: none has two dots for a component, or a slash at its end
behind the name of a file. -/
def ofText (text : String) : MediaPath :=
  (Text.splitSlashes text).filter fun component => component != "" && component != "."

def toText (path : MediaPath) : String := String.intercalate "/" path

/-- The directories on the way to a path, from the root downward, without the root. -/
def ancestors : MediaPath → List MediaPath
  | [] => []
  | [_] => []
  | first :: rest => [first] :: (ancestors rest).map (first :: ·)

end MediaPath

/-- Why a file could not be written. -/
inductive MediaError
  /-- A file stands where a directory of the path would have to be. -/
  | throughFile
  /-- A file stands where the directory of the file would have to be. -/
  | directoryIsFile
  /-- The name of a directory of the path is longer than a file system takes. -/
  | directoryNameTooLong
  /-- A directory stands where the file would have to be. -/
  | fileIsDirectory
  /-- The last component is longer than a file system takes. -/
  | nameTooLong
deriving DecidableEq

def MediaError.message : MediaError → String
  | throughFile => "create media dir: Not a directory (os error 20)"
  | directoryIsFile => "create media dir: File exists (os error 17)"
  | directoryNameTooLong => "create media dir: File name too long (os error 36)"
  | fileIsDirectory => "write media file: Is a directory (os error 21)"
  | nameTooLong => "write media file: File name too long (os error 36)"

structure MediaTree where
  files : List (MediaPath × Bytes)
  /-- Directories below the root. -/
  directories : List MediaPath
deriving DecidableEq

namespace MediaTree

def empty : MediaTree := ⟨[], []⟩

def read? (tree : MediaTree) (path : MediaPath) : Option Bytes :=
  (tree.files.find? fun file => file.1 == path).map (·.2)

def isFile (tree : MediaTree) (path : MediaPath) : Bool := (tree.read? path).isSome

def isDirectory (tree : MediaTree) (path : MediaPath) : Bool :=
  path.isEmpty || tree.directories.contains path

def hasEntry (tree : MediaTree) (path : MediaPath) : Bool :=
  tree.isFile path || tree.isDirectory path

/-- Whether anything stands at a path written as text. -/
def has (tree : MediaTree) (path : String) : Bool := tree.hasEntry (MediaPath.ofText path)

def nameLimit : Nat := 255

def nameFits (path : MediaPath) : Bool := (path.getLastD "").utf8ByteSize ≤ nameLimit

/-- Makes the directory at a path and those on the way to it, down to the first name that is too
long. -/
def makeDirectory (tree : MediaTree) (path : MediaPath) : Except MediaError Unit × MediaTree :=
  if path.ancestors.any tree.isFile then (.error .throughFile, tree)
  else if tree.isFile path then (.error .directoryIsFile, tree)
  else
    let way := path.ancestors ++ [path]
    let missing := (way.takeWhile nameFits).filter fun directory => !tree.isDirectory directory
    (if way.all nameFits then .ok () else .error .directoryNameTooLong,
      { tree with directories := tree.directories ++ missing })

/-- Gives the file at a path its content: in place if it is there, else as a new file. -/
def setFile (path : MediaPath) (content : Bytes) :
    List (MediaPath × Bytes) → List (MediaPath × Bytes)
  | [] => [(path, content)]
  | file :: rest =>
      if file.1 = path then (path, content) :: rest else file :: setFile path content rest

/-- Writes a file over whatever file was there. When the file itself cannot be written, the
directories made for it stay. -/
def write (tree : MediaTree) (path : MediaPath) (content : Bytes) :
    Except MediaError Unit × MediaTree :=
  match tree.makeDirectory path.dropLast with
  | (.error failure, tree) => (.error failure, tree)
  | (.ok (), tree) =>
      if tree.isDirectory path then (.error .fileIsDirectory, tree)
      else if !nameFits path then (.error .nameTooLong, tree)
      else (.ok (), { tree with files := setFile path content tree.files })

/-- Takes a file away; where there is none, nothing happens. -/
def erase (tree : MediaTree) (path : MediaPath) : MediaTree :=
  { tree with files := tree.files.filter fun file => file.1 != path }

def remove (tree : MediaTree) (path : String) : MediaTree := tree.erase (MediaPath.ofText path)

/-- Every file, with the text of its path, in the order of those texts. -/
def listing (tree : MediaTree) : List (String × Bytes) :=
  (tree.files.map fun file => (MediaPath.toText file.1, file.2)).mergeSort fun a b =>
    decide (a.1 ≤ b.1)

/-! ## Free paths -/

def splitName (path : List Char) : List Char × List Char :=
  match Text.splitLast? (· == '/') path with
  | some (directory, name) => (directory ++ ['/'], name)
  | none => ([], path)

/-- A name before its last dot, and the rest from that dot on. A name that has no other dot than
one in front has no extension. -/
def splitExtension (name : List Char) : List Char × List Char :=
  match Text.splitLast? (· == '.') name with
  | some (stem, suffix) => if stem.isEmpty then (name, []) else (stem, '.' :: suffix)
  | none => (name, [])

def numbered (path : String) (number : Nat) : String :=
  let (directory, name) := splitName path.toList
  let (stem, suffix) := splitExtension name
  String.ofList (directory ++ stem ++ '_' :: (Nat.toDigits 10 number ++ suffix))

/-- The path itself where nothing stands there, else the path with the least number, from one
upward, at which nothing stands. There are more numbers to try than things in the tree. Of those
there are taken to be fewer than 2 ^ 31 - 2, so that every number is one of 32 bits with a sign. -/
def freePath (tree : MediaTree) (path : String) : String :=
  if tree.has path then
    let tries := tree.files.length + tree.directories.length + 2
    (((List.range tries).map fun index => numbered path (index + 1)).find? fun candidate =>
      !tree.has candidate).getD path
  else path

end MediaTree

/-! ## Staged files -/

/-- A file written before it is certain that it will be kept. -/
structure StagedFile where
  path : MediaPath
  /-- Nothing stood at the path before. -/
  isFresh : Bool
deriving DecidableEq

namespace StagedFile

def write (tree : MediaTree) (path : String) (content : Bytes) :
    Except MediaError StagedFile × MediaTree :=
  let place := MediaPath.ofText path
  let isFresh := !tree.hasEntry place
  match tree.write place content with
  | (.ok (), tree) => (.ok ⟨place, isFresh⟩, tree)
  | (.error failure, tree) => (.error failure, tree)

/-- Takes the file back, unless it was written over one that had been there. -/
def discard (staged : StagedFile) (tree : MediaTree) : MediaTree :=
  if staged.isFresh then tree.erase staged.path else tree

end StagedFile

end SupplyCatalog
