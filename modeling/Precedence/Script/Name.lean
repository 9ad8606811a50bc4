import Precedence.Number.Literal
import Precedence.Text.Identifier
import Precedence.Tree.Quoted
import Precedence.Tree.Sexp

/-!
# Names and numbers of a script

A tree is compiled to Python statements.  Its atoms become decimal numbers without leading zeros, or names; an atom that
is neither cannot be compiled.
-/

namespace Precedence.Script

/-- Why a tree cannot be compiled. -/
inductive ScriptError where
  /-- A part of the tree could not be parsed. -/
  | incomplete
  /-- A sequence stands where a value is needed. -/
  | sequenceAsValue
  /-- A node that means nothing. -/
  | unsupported (t : Tree)
  /-- An assignment to something that is no name. -/
  | badTarget (t : Tree)
  /-- An atom that is neither a number nor a name. -/
  | badName (text : String)
  /-- An integer literal of too many digits. -/
  | literalTooLong (digits : Nat)

/-- The words that are not names. -/
def keywords : List String :=
  ["False", "None", "True", "and", "as", "assert", "async", "await", "break", "class", "continue", "def", "del",
   "elif", "else", "except", "finally", "for", "from", "global", "if", "import", "in", "is", "lambda", "nonlocal",
   "not", "or", "pass", "raise", "return", "try", "while", "with", "yield"]

/-- Whether the text is a name. -/
def isName (text : String) : Bool := Text.isIdentifier text.toList && !keywords.contains text

/-- The number or the name that an atom becomes. -/
def atomText (text : String) : Except ScriptError String :=
  let chars := text.toList
  if isIntegerChars chars then
    let digits := (literalDigits chars).length
    if digits ≤ digitLimit then .ok (toString (literalValue chars)) else .error (.literalTooLong digits)
  else if isName text then .ok text
  else .error (.badName text)

/-- The name that is assigned to. -/
def targetText (t : Tree) : Except ScriptError String :=
  match t with
  | .atom text => if isIntegerLiteral text then .error (.badTarget t) else atomText text
  | t => .error (.badTarget t)

end Precedence.Script
