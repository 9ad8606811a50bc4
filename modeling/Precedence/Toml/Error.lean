import Precedence.Number.Literal
import Precedence.Text.Quoted

/-!
# Malformed documents

What is wrong with a document, and where.  A place is kept as the part of the document behind it, and shown by line and
column.
-/

namespace Precedence.Toml

/-- The path of a value. -/
abbrev Key := List String

/-- What is wrong with a document. -/
inductive Problem where
  | invalidStatement
  | expectedNewline
  | invalidKey
  | expectedEquals
  | invalidValue
  | invalidMoment
  | integerTooLong (digits : Nat)
  | nestedTooDeeply
  | expectedTableEnd
  | expectedArrayEnd
  | overwrittenValue
  | declaredTwice (key : Key)
  | immutable (key : Key)
  | redefined (key : Key)
  | unclosedArray
  | unclosedTable
  | duplicateKey (key : String)
  | unterminatedString
  | expectedText (text : String)
  | illegalCharacter (c : Char)
  | invalidCharacter (c : Char)
  | strayBackslash
  | invalidHexadecimal
  | invalidCodePoint
  deriving DecidableEq

/-- Whether the document breaks the rules of the format; the other problems are numbers and depths out of bounds. -/
def Problem.isMalformed : Problem → Bool
  | integerTooLong _ | nestedTooDeeply => false
  | _ => true

/-- A key as messages show it. -/
def shownKey (key : Key) : String :=
  "(" ++ ", ".intercalate (key.map Text.quoted) ++ (if key.length = 1 then ",)" else ")")

/-- What is said about a problem. -/
def Problem.message : Problem → String
  | invalidStatement => "Invalid statement"
  | expectedNewline => "Expected newline or end of document after a statement"
  | invalidKey => "Invalid initial character for a key part"
  | expectedEquals => "Expected '=' after a key in a key/value pair"
  | invalidValue => "Invalid value"
  | invalidMoment => "Invalid date or datetime"
  | integerTooLong digits => literalTooLongMessage digits
  | nestedTooDeeply => "Values are nested too deeply"
  | expectedTableEnd => "Expected ']' at the end of a table declaration"
  | expectedArrayEnd => "Expected ']]' at the end of an array declaration"
  | overwrittenValue => "Cannot overwrite a value"
  | declaredTwice key => "Cannot declare " ++ shownKey key ++ " twice"
  | immutable key => "Cannot mutate immutable namespace " ++ shownKey key
  | redefined key => "Cannot redefine namespace " ++ shownKey key
  | unclosedArray => "Unclosed array"
  | unclosedTable => "Unclosed inline table"
  | duplicateKey key => "Duplicate inline table key " ++ Text.quoted key
  | unterminatedString => "Unterminated string"
  | expectedText text => "Expected " ++ Text.quoted text
  | illegalCharacter c => "Illegal character " ++ Text.quoted c.toString
  | invalidCharacter c => "Found invalid character " ++ Text.quoted c.toString
  | strayBackslash => "Unescaped '\\' in a string"
  | invalidHexadecimal => "Invalid hex value"
  | invalidCodePoint => "Escaped character is not a Unicode scalar value"

/-- A problem, with the part of the document behind it. -/
structure Fault where
  problem : Problem
  rest : List Char

/-- Why a document cannot be read. -/
structure Error where
  problem : Problem
  message : String

/-- A place in a document, given the parts before and behind it. -/
def shownPlace (before rest : List Char) : String :=
  if rest.isEmpty then "end of document"
  else "line " ++ toString (before.count '\n' + 1) ++ ", column "
    ++ toString ((before.reverse.takeWhile (· != '\n')).length + 1)

/-- The error of a fault in the given document. -/
def Fault.error (fault : Fault) (document : List Char) : Error :=
  let before := document.take (document.length - fault.rest.length)
  let message := fault.problem.message
  ⟨fault.problem,
    if fault.problem.isMalformed then message ++ " (at " ++ shownPlace before fault.rest ++ ")" else message⟩

end Precedence.Toml
