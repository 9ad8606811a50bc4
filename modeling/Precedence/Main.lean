import Precedence.Command

/-!
# The program

Runs the command line in the current directory.  Of the file system it reads what may hold settings: the entries of the
fixed name in the directory and above it, and the places that arguments may name.
-/

namespace Precedence

/-- The directory and those above it. -/
def directoriesAbove (directory : Path) : List Path :=
  (List.range (directory.length + 1)).reverse.map fun n => directory.take n

/-- The places on the way of every argument that may name a file. -/
def namedPlaces (directory : Path) (arguments : List String) : List Path :=
  arguments.flatMap fun argument =>
    let typed := (joinedValue? "--config" argument).getD argument
    let names := typedNames typed
    let base := if typed.startsWith "/" then [] else directory
    (List.range (names.length + 1)).map fun n => Path.follow base (names.take n)

/-- What is said about wrong arguments. -/
def usageLine : String :=
  "usage: pratt [--config FILE] [--version] (parse | compile | eval | tokens [--highlight]) EXPR"

/-- Run the program on the arguments and return its exit code. -/
def runOnDisk (arguments : List String) : IO UInt32 := do
  let current ← IO.currentDir
  let directory := (typedNames current.toString).filter (· != "")
  let settings := (directoriesAbove directory).map (· ++ [settingsName])
  let mut system : FileSystem := ⟨[], [directory]⟩
  for path in settings ++ namedPlaces directory arguments do
    let place := current / Path.toText path
    if ← place.isDir then system := { system with directories := path :: system.directories }
    else if ← place.pathExists then
      system := { system with files := (path, ← IO.FS.readFile place) :: system.files }
  let color ← (← IO.getStdout).isTty
  match runCommand system directory color arguments with
  | .usage =>
    IO.eprintln usageLine
    return 2
  | .finished report =>
    IO.print report.output
    IO.eprint report.errors
    if let some error := report.escaped? then IO.eprintln error.message
    return UInt32.ofNat report.exitCode

end Precedence

def main (arguments : List String) : IO UInt32 := Precedence.runOnDisk arguments
