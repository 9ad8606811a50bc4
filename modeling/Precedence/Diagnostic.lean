/-!
# Diagnostics

A diagnostic reports one problem: how severe it is, a code, a message and further notes.  `render` writes it as
`error[E100]: message` with a line for each note, in color if that is asked for.
-/

namespace Precedence

/-- How severe a problem is. -/
inductive Severity where
  | error
  | warning
  | note
  deriving DecidableEq

/-- The word for a severity. -/
def Severity.name : Severity → String
  | error => "error"
  | warning => "warning"
  | note => "note"

/-- The escape sequence that switches a terminal to the color of a severity. -/
def Severity.color : Severity → String
  | error => "\x1b[1;31m"
  | warning => "\x1b[1;33m"
  | note => "\x1b[1;36m"

/-- The escape sequence for bold text. -/
def boldStyle : String := "\x1b[1m"

/-- The escape sequence for bold blue text. -/
def noteStyle : String := "\x1b[1;34m"

/-- The escape sequence that ends a style. -/
def plainStyle : String := "\x1b[0m"

/-- A report of one problem. -/
structure Diagnostic where
  severity : Severity
  code : String
  message : String
  notes : List String
  deriving DecidableEq

namespace Diagnostic

/-- The code of input that no rule accepts. -/
def untokenizable : String := "E100"

/-- The code of a token that cannot stand where it does. -/
def unexpectedToken : String := "E200"

/-- The code of a token that is missing. -/
def expectedToken : String := "E201"

/-- The code of a token after the end of the expression. -/
def trailingInput : String := "E202"

/-- Whether the problem is an error. -/
def isError (d : Diagnostic) : Bool := d.severity == .error

/-- The diagnostic as text. -/
def render (d : Diagnostic) (color : Bool) : String :=
  let style (sequence : String) := if color then sequence else ""
  let head := style d.severity.color ++ d.severity.name ++ "[" ++ d.code ++ "]" ++ style plainStyle
    ++ style boldStyle ++ ": " ++ d.message ++ style plainStyle
  let notes := d.notes.map fun note => "  " ++ style noteStyle ++ "=" ++ style plainStyle ++ " note: " ++ note
  "\n".intercalate (head :: notes)

end Diagnostic

/-- Whether any of the problems is an error. -/
def hasErrors (diagnostics : List Diagnostic) : Bool := diagnostics.any Diagnostic.isError

/-- One line on all the problems of an input. -/
def summary (diagnostics : List Diagnostic) : String :=
  toString diagnostics.length ++ " error(s): " ++ "; ".intercalate (diagnostics.map (·.message))

end Precedence
