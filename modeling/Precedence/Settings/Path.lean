/-!
# Paths and files

A path names a file or a directory by the names on the way from the root.  A file system is a set of files, with their
contents, and of directories; the directories on the way to an entry exist with it.
-/

namespace Precedence

/-- A path from the root. -/
abbrev Path := List String

/-- The path as text. -/
def Path.toText (path : Path) : String := "/" ++ "/".intercalate path

/-- Files with their contents, and directories. -/
structure FileSystem where
  files : List (Path × String)
  directories : List Path

namespace FileSystem

/-- The contents of a file. -/
def read? (system : FileSystem) (path : Path) : Option String := system.files.lookup path

/-- Whether the path is a file. -/
def isFile (system : FileSystem) (path : Path) : Bool := (system.read? path).isSome

/-- Whether the path is a directory: the root, a directory that is named, or one on the way to some entry. -/
def isDirectory (system : FileSystem) (path : Path) : Bool :=
  !system.isFile path && (path.isEmpty || system.directories.any path.isPrefixOf
    || system.files.any fun (file, _) => path.isPrefixOf file)

/-- Whether there is anything at the path. -/
def contains (system : FileSystem) (path : Path) : Bool := system.isFile path || system.isDirectory path

end FileSystem

/-! ### Typed paths -/

/-- The names in a typed path. -/
def typedNames (typed : String) : List String := typed.splitToList (· == '/')

/-- The place where the names lead, by the names alone: `..` leads back, and `.` and nothing stay. -/
def Path.follow (base : Path) (names : List String) : Path :=
  names.foldl (fun path name =>
    if name = "" ∨ name = "." then path
    else if name = ".." then path.dropLast
    else path ++ [name]) base

/-- The place that a typed path names, seen from a directory. -/
def Path.resolve (base : Path) (typed : String) : Path :=
  Path.follow (if typed.startsWith "/" then [] else base) (typedNames typed)

/-- The existing place where the names lead; all but the last have to be directories. -/
def FileSystem.walk? (system : FileSystem) (path : Path) : List String → Option Path
  | [] => if system.contains path then some path else none
  | name :: names =>
    if !system.isDirectory path then none
    else if name = "" ∨ name = "." then system.walk? path names
    else if name = ".." then system.walk? path.dropLast names
    else system.walk? (path ++ [name]) names

/-- The existing place that a typed path names. -/
def FileSystem.locate? (system : FileSystem) (base : Path) (typed : String) : Option Path :=
  if typed = "" then none
  else system.walk? (if typed.startsWith "/" then [] else base) (typedNames typed)

/-- A typed path without names that stay where they are. -/
def tidied (typed : String) : String :=
  let names := (typedNames typed).filter fun name => name != "" && name != "."
  let root := if typed.startsWith "//" && !typed.startsWith "///" then "//"
    else if typed.startsWith "/" then "/" else ""
  if root = "" && names.isEmpty then "." else root ++ "/".intercalate names

end Precedence
