/-!
# Command lines

A command line holds options of the program, the name of a command, options of the command, and one expression.  Options
of the program end at the first other argument; those of a command may stand before and after the expression.  After
`--` no argument is an option.  A lone `-` is none either.
-/

namespace Precedence

/-- The commands. -/
inductive Verb where
  /-- Print the tree of an expression. -/
  | parse
  /-- Print an expression compiled to a script. -/
  | compile
  /-- Run an expression and print its value. -/
  | eval
  /-- Print the tokens of an expression. -/
  | tokens
  deriving DecidableEq

/-- The command with a name. -/
def Verb.ofName? : String → Option Verb
  | "parse" => some parse
  | "compile" => some compile
  | "eval" => some eval
  | "tokens" => some tokens
  | _ => none

/-- The options of the program, and the arguments after them. -/
structure ProgramLine where
  /-- The file with the settings; the last one that is named counts. -/
  config? : Option String := none
  version : Bool := false
  rest : List String := []

/-- The options of a command and its other arguments, the latter in order. -/
structure VerbLine where
  highlight : Bool := false
  expressions : List String := []

/-- Whether the argument is an option. -/
def isOption (argument : String) : Bool := argument.startsWith "-" && argument != "-"

/-- The value that is joined to an option by an equals sign. -/
def joinedValue? (option argument : String) : Option String :=
  let start := (option ++ "=").toList
  if start.isPrefixOf argument.toList then some (String.ofList (argument.toList.drop start.length)) else none

/-- Read the options of the program, unless one of them is wrong. -/
def ProgramLine.read? (line : ProgramLine) : List String → Option ProgramLine
  | [] => some line
  | argument :: rest =>
    if argument = "--" then some { line with rest }
    else if !isOption argument then some { line with rest := argument :: rest }
    else if argument = "--version" then read? { line with version := true } rest
    else if argument = "--config" then
      match rest with
      | [] => none
      | config :: rest => read? { line with config? := some config } rest
    else match joinedValue? "--config" argument with
      | some config => read? { line with config? := some config } rest
      | none => none

/-- Read the arguments of a command, unless one of them is wrong. -/
def VerbLine.read? (verb : Verb) (line : VerbLine) : List String → Option VerbLine
  | [] => some line
  | argument :: rest =>
    if argument = "--" then some { line with expressions := line.expressions ++ rest }
    else if !isOption argument then
      read? verb { line with expressions := line.expressions ++ [argument] } rest
    else if argument = "--highlight" ∧ verb = .tokens then read? verb { line with highlight := true } rest
    else none

end Precedence
