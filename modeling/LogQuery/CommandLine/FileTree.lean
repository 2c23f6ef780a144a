import LogQuery.Bindings
import LogQuery.Text.Utf8

/-!
# File Trees

The files that a command works on, by their names. A name is looked up part by
part: parts that are empty or a single point do not count, and two points
cancel the part before them. Two names with the same parts are names of the
same file, so a command that reads and writes one file under two names is seen
to do so.

Names are compared by their spelling. There are no links, so that one file has the
names with its parts and no others, and no permissions, so that whatever is there can
be read and written. A part that two points cancel need not be there, though a system
would look for it.

Opening a file can fail, and the message is that of the system. A directory
can be opened to read but has nothing to give.

## Main definitions

* `FileName.parts`: The parts of a name that count.
* `FileTree`: Files and directories.
* `FileTree.find`: What stands under a name.
* `FileTree.create`: Makes or empties a file.
-/

namespace LogQuery

namespace FileName

/-- The part that stands for the root of all files. -/
def root : String := "/"

/-- Adds a part behind others, the last of which comes first. -/
def push (parts : List String) (part : String) : List String :=
  if part = "" ∨ part = "." then parts
  else if part = ".." then
    match parts with
    | [] => [".."]
    | last :: before =>
      if last = ".." then ".." :: last :: before
      else if last = root then [root]
      else before
  else part :: parts

/-- The pieces of a name between its slashes. -/
def pieces (name : String) : List String := (name.toList.splitOn '/').map String.ofList

/-- The parts of a name that count. -/
def parts (name : String) : List String :=
  let first := if name.toList.head? == some '/' then [root] else []
  ((pieces name).foldl push first).reverse

/-- The one name for a list of parts. -/
def join (parts : List String) : String := "/".intercalate parts

/-- Whether a name ends with a slash, as only that of a directory should. -/
def endsWithSlash (name : String) : Bool := name.toList.getLast? == some '/'

/-- Whether a name ends as only that of a directory should: with a slash, or with
    one point or two behind a slash or alone. -/
def endsAsDirectory (name : String) : Bool :=
  match (pieces name).getLast? with
  | some piece => piece == "" || piece == "." || piece == ".."
  | none => false

/-- The last piece of a name, unless it leads upwards. -/
def last? (name : String) : Option String :=
  match ((pieces name).filter fun piece => piece != "" && piece != ".").getLast? with
  | some piece => if piece = ".." then none else some piece
  | none => none

/-- What stands behind the last point of a name, unless the name starts with
    that point. -/
def extension? (name : String) : Option String := do
  let cs := (← last? name).toList
  let behind := cs.reverse.takeWhile (· != '.')
  if behind.length + 1 < cs.length then some (String.ofList behind.reverse) else none

/-- Whether a name is the single hyphen that stands for a standard stream. A
    slash behind it does not count, but a point before it does. -/
def isStandard (name : String) : Bool :=
  match pieces name with
  | first :: rest => first == "-" && rest.all fun piece => piece == "" || piece == "."
  | [] => false

end FileName

/-- Why a file cannot be opened or read. -/
inductive FileError where
  | notFound
  | notDirectory
  | isDirectory
  /-- The file is no text. -/
  | notText
deriving DecidableEq, Repr

def FileError.message : FileError → String
  | notFound => "No such file or directory (os error 2)"
  | notDirectory => "Not a directory (os error 20)"
  | isDirectory => "Is a directory (os error 21)"
  | notText => "stream did not contain valid UTF-8"

/-- What stands under a name. -/
inductive FileEntry where
  | file (bytes : Bytes)
  | directory
deriving DecidableEq

/-- Files and directories. Files go by the joined parts of their names. -/
structure FileTree where
  files : Bindings Bytes
  /-- The directories besides the working directory and those above it. -/
  directories : List (List String)
deriving Inhabited

namespace FileTree

/-- The parts of a name without the last one, and so on up to none. -/
def parents (parts : List String) : List (List String) :=
  match parts.dropLast with
  | [] => []
  | parent => (List.range parent.length).map fun i => parent.take (i + 1)

/-- The tree of some files and the directories that they need. -/
def ofFiles (files : List (String × Bytes)) : FileTree where
  files := .ofList (files.map fun file => (FileName.join (FileName.parts file.1), file.2))
  directories := files.flatMap fun file => parents (FileName.parts file.1)

def isDirectory (t : FileTree) (parts : List String) : Bool :=
  parts.all (· == "..") || parts == [FileName.root] || t.directories.contains parts

/-- The bytes of the file with the given name, if there is one. -/
def get? (t : FileTree) (name : String) : Option Bytes :=
  t.files.get? (FileName.join (FileName.parts name))

/-- Whether a file stands where a directory is needed. -/
def isBlocked (t : FileTree) (parts : List String) : Bool :=
  (parents parts).any fun parent => t.files.contains (FileName.join parent)

/-- What stands under a name. -/
def find (t : FileTree) (name : String) : Except FileError FileEntry :=
  let parts := FileName.parts name
  if t.isDirectory parts then .ok .directory
  else
    match t.files.get? (FileName.join parts) with
    | some bytes =>
      if FileName.endsAsDirectory name then .error .notDirectory else .ok (.file bytes)
    | none => .error (if t.isBlocked parts then .notDirectory else .notFound)

/-- The text of a file. -/
def readText (t : FileTree) (name : String) : Except FileError String :=
  match t.find name with
  | .error error => .error error
  | .ok .directory => .error .isDirectory
  | .ok (.file bytes) =>
    match Utf8.decode bytes with
    | .ok text => .ok (String.ofList text)
    | .error _ => .error .notText

/-- Puts bytes into the file with the given name. -/
def write (t : FileTree) (name : String) (bytes : Bytes) : FileTree :=
  { t with files := t.files.set (FileName.join (FileName.parts name)) bytes }

/-- Makes a file, or empties the one that there is. -/
def create (t : FileTree) (name : String) : Except FileError FileTree :=
  let parts := FileName.parts name
  if t.isDirectory parts then .error .isDirectory
  else if t.isBlocked parts then .error .notDirectory
  else if !t.isDirectory parts.dropLast then .error .notFound
  else if FileName.endsWithSlash name then .error .isDirectory
  else if FileName.endsAsDirectory name then
    .error (if t.files.contains (FileName.join parts) then .notDirectory else .notFound)
  else .ok (t.write name [])

end FileTree

end LogQuery
