import Precedence.Command.Escape
import Precedence.Command.Line
import Precedence.Evaluation.Machine
import Precedence.Highlight
import Precedence.Script.Statement
import Precedence.Settings
import Precedence.Settings.Search

/-!
# The command line

A command finds the settings, reads its arguments, and then parses, compiles, evaluates or lists the tokens of an
expression.  Problems of the expression and errors that a user can mend are reported with the exit code 1.  Some errors
are not expected by a command; they escape it, and what was printed before stays.
-/

namespace Precedence

/-- An error that a command does not expect. -/
inductive Escaped where
  | settings (error : SettingsError)
  | matching (error : MatchError)
  | script (error : Script.ScriptError)
  | evaluation (error : EvalError)
  /-- The entry with the settings is a directory. -/
  | directory (path : String)

/-- What a finished command has printed, and how it ended. -/
structure Report where
  exitCode : Nat := 0
  output : String := ""
  errors : String := ""
  escaped? : Option Escaped := none

/-- How a command ends. -/
inductive CommandResult where
  /-- The arguments are wrong. -/
  | usage
  | finished (report : Report)

/-- The version of the program. -/
def versionLine : String := "pratt, version 0.1.0\n"

namespace Report

/-- The report with a line more on its errors. -/
def addError (report : Report) (line : String) : Report := { report with errors := report.errors ++ line ++ "\n" }

/-- The report with a line more of output. -/
def addLine (report : Report) (line : String) : Report := { report with output := report.output ++ line ++ "\n" }

/-- The report of a command that has failed. -/
def fail (report : Report) : Report := { report with exitCode := 1 }

/-- The report of a command that fails with an error message. -/
def failWith (report : Report) (message : String) : Report := (report.addError ("error: " ++ message)).fail

/-- The report of a command that an error has escaped. -/
def escape (report : Report) (error : Escaped) : Report := { report.fail with escaped? := some error }

/-- The report with the diagnostics. -/
def addDiagnostics (report : Report) (color : Bool) (diagnostics : List Diagnostic) : Report :=
  diagnostics.foldl (fun report d => report.addError (d.render color)) report

/-- The report without escape sequences. -/
def plain (report : Report) : Report :=
  { report with
    output := String.ofList (withoutEscapes report.output.toList)
    errors := String.ofList (withoutEscapes report.errors.toList) }

end Report

/-! ### Which errors are reported -/

/-- Whether a command reports the error; the others are mistakes in the types of values and numbers out of bounds. -/
def SettingsError.isReported : SettingsError → Bool
  | malformed error => error.problem.isMalformed
  | incompleteRule .. => true
  | unknownKind token? _ => token?.isSome
  | badRule error => error.error.isMalformed
  | sectionType _ | rulesType _ | patternType | unhashable _ => false

/-- Whether a command reports the error. -/
def Script.ScriptError.isReported : Script.ScriptError → Bool
  | literalTooLong _ => false
  | _ => true

/-- Whether a command reports the error. -/
def EvalError.isReported : EvalError → Bool
  | literalTooLong _ | integerTooLong | nestedTooDeeply => false
  | _ => true

/-- Whether a command reports the error. -/
def MatchError.isReported : MatchError → Bool
  | empty .. => true
  | crossedGroup => false

/-- The report of a command that cannot use a match. -/
def MatchError.report (error : MatchError) : Report :=
  if error.isReported then ({} : Report).failWith error.message else ({} : Report).escape (.matching error)

/-- The report of a command that cannot use the settings. -/
def SettingsError.report (error : SettingsError) : Report :=
  if error.isReported then ({} : Report).failWith error.message else ({} : Report).escape (.settings error)

/-! ### Commands -/

variable [Runtime]

/-- What is said about expressions that are nested too deeply. -/
def nestedTooDeeplyMessage : String := "expression is nested too deeply"

/-- Parse an expression and report its problems.  If there is no tree to go on with, the report is final. -/
def parseAndReport (parser : Parser) (color : Bool) (source : String) : Except Report (Tree × Report) :=
  match parser.parseResult source with
  | .error (.unusable error) => .error error.report
  | .error _ => .error (({} : Report).failWith nestedTooDeeplyMessage)
  | .ok result =>
    let report := ({} : Report).addDiagnostics color result.diagnostics
    if parser.strict && !result.ok then .error report.fail else .ok (result.value, report)

/-- Print a compiled tree. -/
def compileTree (t : Tree) (report : Report) : Report :=
  match Script.ofTree t with
  | .ok text => report.addLine text
  | .error error => if error.isReported then report.failWith error.message else report.escape (.script error)

/-- A value as `echo` prints it. -/
def Value.echoText : Value → Except EvalError String
  | none => .ok ""
  | value => value.text

/-- Print what was echoed, up to a value that cannot be printed. -/
def printEchoed (report : Report) : List Value → Except Report Report
  | [] => .ok report
  | value :: values =>
    match value.echoText with
    | .ok text => printEchoed (report.addLine text) values
    | .error error => .error (report.escape (.evaluation error))

/-- Print the result of an evaluation. -/
def printResult (report : Report) : Except EvalError Value → Report
  | .ok .none => report
  | .ok value =>
    match value.text with
    | .ok text => report.addLine text
    | .error error => report.escape (.evaluation error)
  | .error error => if error.isReported then report.failWith error.message else report.escape (.evaluation error)

/-- Evaluate a tree, print what it echoes, and then its value. -/
def evalTree (t : Tree) (report : Report) : Report :=
  let (result, memory) := t.run .empty
  match printEchoed report memory.echoed with
  | .error report => report
  | .ok report => printResult report result

/-- A token on a line of its own, its name padded to the width of a column. -/
def tokenLine (token : Token) : String :=
  String.ofList (token.kind.name.toList.rightpad 10 ' ') ++ " " ++ Text.quoted token.value

/-- Print the tokens of an expression. -/
def listTokens (parser : Parser) (color : Bool) (source : String) : Report :=
  match parser.lex source with
  | .error error => error.report
  | .ok lexed =>
    let report : Report := lexed.tokens.foldl (fun report token => report.addLine (tokenLine token)) {}
    let report := report.addDiagnostics color lexed.diagnostics
    if lexed.ok then report else report.fail

/-- Print an expression in color. -/
def printColored (parser : Parser) (source : String) : Report :=
  match colored parser.rules source with
  | .error error => error.report
  | .ok text => { output := text }

/-- Run a command with a parser. -/
def Verb.run (verb : Verb) (parser : Parser) (color highlight : Bool) (source : String) : Report :=
  match verb with
  | tokens => if highlight then printColored parser source else listTokens parser color source
  | verb =>
    match parseAndReport parser color source with
    | .error report => report
    | .ok (t, report) =>
      match verb with
      | compile => compileTree t report
      | eval => evalTree t report
      | _ => report.addLine t.toSexp

/-! ### The program -/

/-- The settings for a directory, or those of a file that is named; a file that is not there is a wrong argument. -/
def FileSystem.settings (system : FileSystem) (directory : Path) (config? : Option String) :
    Except CommandResult Settings :=
  let read (shown text : String) : Except CommandResult Settings :=
    match Settings.ofText shown text with
    | .ok settings => .ok settings
    | .error error => .error (.finished error.report)
  match config? with
  | some typed =>
    match (system.locate? directory typed).bind system.read? with
    | none => .error .usage
    | some text => read (tidied typed) text
  | none =>
    match system.findSettings? directory with
    | none => .ok {}
    | some path =>
      match system.read? path with
      | none => .error (.finished (({} : Report).escape (.directory path.toText)))
      | some text => read path.toText text

/-- Whether the named file is there. -/
def FileSystem.hasConfig (system : FileSystem) (directory : Path) (config? : Option String) : Bool :=
  config?.all fun typed => ((system.locate? directory typed).bind system.read?).isSome

/-- Run a command with its arguments. -/
def Verb.runWith (verb : Verb) (settings : Settings) (arguments : List String) : CommandResult :=
  match VerbLine.read? verb {} arguments with
  | some ⟨highlight, [source]⟩ =>
    .finished <| match settings.parser .arithmetic with
      | .error error => error.report
      | .ok parser => verb.run parser settings.color.isTrue highlight source
  | _ => .usage

/-- Run the program in a directory.  The command is looked up before the settings are read, and these are read before
its arguments. -/
def runProgram (system : FileSystem) (directory : Path) (arguments : List String) : CommandResult :=
  match ProgramLine.read? {} arguments with
  | none => .usage
  | some line =>
    if line.version then .finished { output := versionLine }
    else if !system.hasConfig directory line.config? then .usage
    else match line.rest with
      | [] => .usage
      | name :: arguments =>
        match Verb.ofName? name with
        | none => .usage
        | some verb =>
          match system.settings directory line.config? with
          | .error result => result
          | .ok settings => verb.runWith settings arguments

/-- Run the program; escape sequences are left out unless color is wanted. -/
def runCommand (system : FileSystem) (directory : Path) (color : Bool) (arguments : List String) : CommandResult :=
  match runProgram system directory arguments with
  | .usage => .usage
  | .finished report => .finished (if color then report else report.plain)

/-- What is said about an error that a command does not expect. -/
def Escaped.message : Escaped → String
  | settings error => error.message
  | matching error => error.message
  | script error => error.message
  | evaluation error => error.message
  | directory path => "[Errno 21] Is a directory: " ++ Text.quoted path

end Precedence
