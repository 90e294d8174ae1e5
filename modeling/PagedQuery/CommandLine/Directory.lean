/-
# Paths of files

A command reads files of the directory it runs in, which has no directories below it.  A path is
followed part by part (`Place.follow`): nothing or `.` stays where it is, `..` goes to the
directory above, of which nothing more is known, and a name leads to the file of that name.
Behind a file nothing may follow, not even a slash.

Of the directories elsewhere only those are known that stand at the root of every system.  A name
below one of them is said to be missing; a path that ends in one is said to lead to a directory.
-/

namespace PagedQuery
namespace CommandLine
namespace Directory

/-- Why a path leads to no file. -/
inductive PathError
  /-- There is nothing of that name. -/
  | missing
  /-- It goes on behind a file. -/
  | notDirectory
  /-- It leads to a directory. -/
  | isDirectory
  /-- It, or a name in it, has too many bytes. -/
  | tooLong
deriving DecidableEq

/-- What a user is told about a path that leads to no file. -/
def PathError.message : PathError → String
  | missing => "No such file or directory (os error 2)"
  | notDirectory => "Not a directory (os error 20)"
  | isDirectory => "Is a directory (os error 21)"
  | tooLong => "File name too long (os error 36)"

/-- Where the beginning of a path leads. -/
inductive Place
  /-- The directory itself. -/
  | here
  /-- The directory that a path starts from whose first character is a slash. -/
  | root
  /-- Another directory. -/
  | elsewhere
  /-- A file, with its text. -/
  | file (text : String)
deriving DecidableEq

/-- The most bytes of a path. -/
def maxPathBytes : Nat := 4095

/-- The most bytes of a name in a path. -/
def maxNameBytes : Nat := 255

/-- The directories at the root of every system. -/
def rootDirectories : List String :=
  ["bin", "boot", "dev", "etc", "home", "lib", "media", "mnt", "opt", "proc", "root", "run",
    "sbin", "srv", "sys", "tmp", "usr", "var"]

/-- The parts of a path, which slashes part. -/
def parts (path : List Char) : List (List Char) :=
  path.foldr step [[]]
where
  step : Char → List (List Char) → List (List Char)
  | '/', found => [] :: found
  | c, [] => [[c]]
  | c, part :: found => (c :: part) :: found

/-- The directory above a place. -/
def Place.parent : Place → Place
  | root => root
  | _ => elsewhere

/-- Where a name in a place leads. -/
def Place.lookup (files : List (String × String)) (name : String) : Place → Except PathError Place
  | here =>
    match files.lookup name with
    | some text => .ok (file text)
    | none => .error .missing
  | root => if rootDirectories.contains name then .ok elsewhere else .error .missing
  | elsewhere => .error .missing
  | file _ => .error .notDirectory

/-- Where a part of a path leads from a place. -/
def Place.follow (files : List (String × String)) (place : Place) (part : List Char) :
    Except PathError Place :=
  let name := String.ofList part
  match place with
  | file _ => .error .notDirectory
  | _ =>
    if name == "" || name == "." then .ok place
    else if name == ".." then .ok place.parent
    else if maxNameBytes < name.utf8ByteSize then .error .tooLong
    else place.lookup files name

/-- The text of the file a path leads to. -/
def find (files : List (String × String)) (path : String) : Except PathError String := do
  if maxPathBytes < path.utf8ByteSize then throw .tooLong
  let start := if path.startsWith "/" then Place.root else .here
  match ← (parts path.toList).foldlM (Place.follow files) start with
  | .file text => .ok text
  | _ => .error .isDirectory

/-- The text of the file a path leads to, or what a user is told. -/
def read (files : List (String × String)) (path : String) : Except String String :=
  match find files path with
  | .ok text => .ok text
  | .error e => .error e.message

end Directory
end CommandLine
end PagedQuery
