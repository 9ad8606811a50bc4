import Precedence.Runtime
import Precedence.Toml.Scalar

/-!
# TOML documents

A document is read statement by statement into a table.  Some paths are closed to later statements: a table that has
been declared cannot be declared again, one that a dotted key has made cannot be declared in a later section, and what
an inline array or table holds cannot be changed.
-/

namespace Precedence.Toml

/-! ### Tables -/

/-- The table with a value for the key, in the place of its old value if it has one. -/
def Table.set (key : String) (value : Value) : Table → Table
  | [] => [(key, value)]
  | entry :: entries => if entry.1 = key then (key, value) :: entries else entry :: Table.set key value entries

/-- Change the table at a path, with the tables on the way being made if they are missing.  An array on the way stands
for the last of its tables, if arrays may be entered. -/
def Table.change (enterArrays : Bool) (change : Table → Except Problem Table) : Key → Table → Except Problem Table
  | [], table => change table
  | key :: path, table =>
    match table.lookup key with
    | none => do return table.set key (.table (← Table.change enterArrays change path []))
    | some (.table inner) => do return table.set key (.table (← Table.change enterArrays change path inner))
    | some (.array items) =>
      match enterArrays, items.getLast? with
      | true, some (.table inner) => do
        let changed ← Table.change enterArrays change path inner
        return table.set key (.array (items.dropLast ++ [.table changed]))
      | _, _ => .error .overwrittenValue
    | some _ => .error .overwrittenValue

/-- Add a value under a key that the table does not hold yet. -/
def Table.add (key : String) (value : Value) (problem : Problem) (table : Table) : Except Problem Table :=
  if (table.lookup key).isSome then .error problem else .ok (table ++ [(key, value)])

/-- Append an empty table to the array under a key. -/
def Table.appendTable (key : String) (table : Table) : Except Problem Table :=
  match table.lookup key with
  | none => .ok (table.set key (.array [.table []]))
  | some (.array items) => .ok (table.set key (.array (items ++ [.table []])))
  | some _ => .error .overwrittenValue

/-- The error of a problem at a place. -/
def located {α : Type} (rest : List Char) : Except Problem α → Except Fault α
  | .ok a => .ok a
  | .error problem => .error ⟨problem, rest⟩

/-- Whether the path lies at or below one of the given ones. -/
def isBelow (paths : List Key) (path : Key) : Bool := paths.any (·.isPrefixOf path)

/-! ### Keys -/

def isBareKeyChar (c : Char) : Bool := c.isAlphanum || c == '-' || c == '_'

/-- A part of a key: a word, or a string. -/
def keyPart (text : List Char) : Except Fault (String × List Char) :=
  match text with
  | [] => .error ⟨.invalidKey, []⟩
  | c :: rest =>
    if isBareKeyChar c then .ok (String.ofList (text.takeWhile isBareKeyChar), text.dropWhile isBareKeyChar)
    else if c = '\x27' ∨ c = '"' then lineString c rest
    else .error ⟨.invalidKey, text⟩

/-- The parts of a key, separated by dots. -/
def keyParts : (room : List Char) → List Char → Except Fault (Key × List Char)
  | [], text => .error ⟨.invalidKey, text⟩
  | _ :: room, text => do
    let (part, rest) ← keyPart text
    match rest.dropWhile isBlank with
    | '.' :: rest =>
      let (parts, rest) ← keyParts room (rest.dropWhile isBlank)
      return (part :: parts, rest)
    | rest => return ([part], rest)

/-- A key and the white space behind it. -/
def key (text : List Char) : Except Fault (Key × List Char) := keyParts (' ' :: text) text

/-! ### Values -/

/-- Skip a comment. -/
def skipComment (text : List Char) : Except Fault (List Char) :=
  match text with
  | '#' :: rest =>
    match (rest.takeWhile (· != '\n')).find? isIllegal with
    | some c => .error ⟨.invalidCharacter c, rest.dropWhile (!isIllegal ·)⟩
    | none => .ok (rest.dropWhile (· != '\n'))
  | _ => .ok text

/-- Skip white space, newlines and comments. -/
def skipLines : (room : List Char) → List Char → Except Fault (List Char)
  | [], text => .ok text
  | _ :: room, text =>
    match text.dropWhile isBlankOrNewline with
    | '#' :: rest => do skipLines room (← skipComment ('#' :: rest))
    | rest => .ok rest

/-- The items of an array, after its bracket. -/
def arrayItems (value : List Char → Except Fault (Value × List Char)) :
    (room : List Char) → List Char → Except Fault (List Value × List Char)
  | [], text => .error ⟨.unclosedArray, text⟩
  | _ :: room, text => do
    match ← skipLines text text with
    | ']' :: rest => return ([], rest)
    | text =>
      let (item, rest) ← value text
      match ← skipLines rest rest with
      | ']' :: rest => return ([item], rest)
      | ',' :: rest =>
        let (items, rest) ← arrayItems value room rest
        return (item :: items, rest)
      | rest => .error ⟨.unclosedArray, rest⟩

/-- A key, an equals sign and a value. -/
def keyValue (value : List Char → Except Fault (Value × List Char)) (text : List Char) :
    Except Fault ((Key × Value) × List Char) := do
  let (path, rest) ← key text
  match rest with
  | '=' :: rest =>
    let (read, rest) ← value (rest.dropWhile isBlank)
    return ((path, read), rest)
  | _ => .error ⟨.expectedEquals, rest⟩

/-- Whether a value holds other values. -/
def Value.isContainer : Value → Bool
  | array _ | table _ => true
  | _ => false

/-- The entries of an inline table, after its brace. -/
def inlineEntries (value : List Char → Except Fault (Value × List Char)) :
    (room : List Char) → (frozen : List Key) → Table → List Char → Except Fault (Table × List Char)
  | [], _, _, text => .error ⟨.unclosedTable, text⟩
  | _ :: room, frozen, table, text => do
    let ((path, read), rest) ← keyValue value text
    if isBelow frozen path then throw ⟨.immutable path, rest⟩
    let stem := path.getLastD ""
    let table ← located rest (Table.change false (Table.add stem read (.duplicateKey stem)) path.dropLast table)
    match rest.dropWhile isBlank with
    | '}' :: rest => return (table, rest)
    | ',' :: rest =>
      let frozen := if read.isContainer then path :: frozen else frozen
      inlineEntries value room frozen table (rest.dropWhile isBlank)
    | rest => .error ⟨.unclosedTable, rest⟩

/-- A table between braces, after the first of them. -/
def inlineTable (value : List Char → Except Fault (Value × List Char)) (text : List Char) :
    Except Fault (Table × List Char) :=
  match text.dropWhile isBlank with
  | '}' :: rest => .ok ([], rest)
  | text => inlineEntries value (' ' :: text) [] [] text

/-- A value that holds no others and is no string. -/
def plainValue (text : List Char) : Except Fault (Value × List Char) :=
  if "true".toList.isPrefixOf text then .ok (.boolean true, text.drop 4)
  else if "false".toList.isPrefixOf text then .ok (.boolean false, text.drop 5)
  else match moment? text with
    | some read => read
    | none => match number? text with
      | some read => read
      | none => match special? text with
        | some found => .ok found
        | none => .error ⟨.invalidValue, text⟩

/-- A value within the given budget for nesting, of which an array takes two parts and an inline table three. -/
def value : (budget : Nat) → List Char → Except Fault (Value × List Char)
  | budget + 3, text =>
    match text with
    | '"' :: '"' :: '"' :: rest => do
      let (read, rest) ← linesString '"' rest
      return (.string read, rest)
    | '\x27' :: '\x27' :: '\x27' :: rest => do
      let (read, rest) ← linesString '\x27' rest
      return (.string read, rest)
    | '"' :: rest => do
      let (read, rest) ← lineString '"' rest
      return (.string read, rest)
    | '\x27' :: rest => do
      let (read, rest) ← lineString '\x27' rest
      return (.string read, rest)
    | '[' :: rest => do
      let (items, rest) ← arrayItems (value (budget + 1)) (' ' :: rest) rest
      return (.array items, rest)
    | '{' :: rest => do
      let (table, rest) ← inlineTable (value budget) rest
      return (.table table, rest)
    | _ => plainValue text
  | _, text => .error ⟨.nestedTooDeeply, text⟩

/-! ### Statements -/

/-- What has been read of a document. -/
structure State where
  root : Table := []
  /-- The path of the section that statements belong to. -/
  header : Key := []
  /-- The tables that cannot be declared again. -/
  declared : List Key := []
  /-- The tables that cannot be declared from the next section on. -/
  pending : List Key := []
  /-- The paths of inline arrays and tables. -/
  frozen : List Key := []

namespace State

variable [Runtime]

/-- The state at the start of a new section. -/
def closePending (state : State) : State :=
  { state with declared := state.pending ++ state.declared, pending := [] }

/-- Declare a table. -/
def declareTable (state : State) (text : List Char) : Except Fault (State × List Char) := do
  let (path, rest) ← key (text.dropWhile isBlank)
  if state.declared.contains path || isBelow state.frozen path then throw ⟨.declaredTwice path, rest⟩
  let root ← located rest (Table.change true .ok path state.root)
  match rest with
  | ']' :: rest => return ({ state with root, header := path, declared := path :: state.declared }, rest)
  | _ => .error ⟨.expectedTableEnd, rest⟩

/-- Append a table to an array of tables. -/
def declareArray (state : State) (text : List Char) : Except Fault (State × List Char) := do
  let (path, rest) ← key (text.dropWhile isBlank)
  if isBelow state.frozen path then throw ⟨.immutable path, rest⟩
  let root ← located rest (Table.change true (Table.appendTable (path.getLastD "")) path.dropLast state.root)
  match rest with
  | ']' :: ']' :: rest =>
    let isNew (other : Key) := !path.isPrefixOf other
    return ({ state with
      root, header := path
      declared := path :: state.declared.filter isNew
      frozen := state.frozen.filter isNew }, rest)
  | _ => .error ⟨.expectedArrayEnd, rest⟩

/-- The tables that a dotted key goes through. -/
def tablesOnTheWay (header path : Key) : List Key :=
  (List.range (path.length - 1)).map fun n => header ++ path.take (n + 1)

/-- Set the value of a key. -/
def setValue (state : State) (text : List Char) : Except Fault (State × List Char) := do
  let ((path, read), rest) ← keyValue (value Runtime.valueDepth) text
  let way := tablesOnTheWay state.header path
  if let some table := way.find? state.declared.contains then throw ⟨.redefined table, rest⟩
  let parent := state.header ++ path.dropLast
  if isBelow state.frozen parent then throw ⟨.immutable parent, rest⟩
  let root ← located rest (Table.change true (Table.add (path.getLastD "") read .overwrittenValue) parent state.root)
  return ({ state with
    root
    pending := way ++ state.pending
    frozen := if read.isContainer then (state.header ++ path) :: state.frozen else state.frozen }, rest)

/-- Read a statement, if there is one on the line. -/
def statement (state : State) (text : List Char) : Except Fault (State × List Char) :=
  match text with
  | '[' :: '[' :: rest => state.closePending.declareArray rest
  | '[' :: rest => state.closePending.declareTable rest
  | '#' :: _ => .ok (state, text)
  | c :: _ =>
    if isBareKeyChar c || c = '"' || c = '\x27' then state.setValue text else .error ⟨.invalidStatement, text⟩
  | [] => .ok (state, [])

/-- Read the lines that are left. -/
def lines : (room : List Char) → State → List Char → Except Fault State
  | [], state, _ => .ok state
  | _ :: room, state, text =>
    match text.dropWhile isBlank with
    | [] => .ok state
    | '\n' :: rest => lines room state rest
    | text => do
      let (state, rest) ← state.statement text
      match ← skipComment (rest.dropWhile isBlank) with
      | [] => return state
      | '\n' :: rest => lines room state rest
      | rest => .error ⟨.expectedNewline, rest⟩

end State

/-- A text with a newline for every carriage return and newline. -/
def joinLineEnds : List Char → List Char
  | [] => []
  | c :: text =>
    match text with
    | [] => [c]
    | next :: rest => if c = '\r' ∧ next = '\n' then '\n' :: joinLineEnds rest else c :: joinLineEnds (next :: rest)

/-- Read a document. -/
def read [Runtime] (text : String) : Except Error Table :=
  let document := joinLineEnds text.toList
  match State.lines document {} document with
  | .error fault => .error (fault.error document)
  | .ok state => .ok state.root

end Precedence.Toml
