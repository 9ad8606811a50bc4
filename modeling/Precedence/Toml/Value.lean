import Precedence.Number.Literal
import Precedence.Number.Power
import Precedence.Number.Shortest
import Precedence.Text.Quoted

/-!
# TOML values

The values of a configuration document, and how they are shown in messages.
-/

namespace Precedence.Toml

/-- A value of a document. -/
inductive Value where
  | string (text : String)
  | integer (n : Int)
  | float (x : Float)
  | boolean (value : Bool)
  /-- A date, a time, or both, by the name of its type and the form in which it is shown. -/
  | moment (type shown : String)
  | array (items : List Value)
  | table (entries : List (String × Value))
  deriving Inhabited

/-- The entries of a table, in the order in which they were made. -/
abbrev Table := List (String × Value)

namespace Value

/-- The name of the type of a value. -/
def typeName : Value → String
  | string _ => "str"
  | integer _ => "int"
  | float _ => "float"
  | boolean _ => "bool"
  | moment type _ => type
  | array _ => "list"
  | table _ => "dict"

/-- Whether a value counts as true: it is not false, not zero and not empty. -/
def isTrue : Value → Bool
  | string text => text != ""
  | integer n => n != 0
  | float x => x != 0
  | boolean value => value
  | moment .. => true
  | array items => !items.isEmpty
  | table entries => !entries.isEmpty

mutual

/-- The form in which a value is shown, unless an integer has too many digits. -/
def shown? : Value → Option String
  | string text => some (Text.quoted text)
  | integer n => if n.natAbs < Number.tenTo digitLimit then some (toString n) else none
  | float x => some (Number.shortestText x)
  | boolean value => some (if value then "True" else "False")
  | moment _ shown => some shown
  | array items => do return "[" ++ ", ".intercalate (← shownItems? items) ++ "]"
  | table entries => do return "\x7b" ++ ", ".intercalate (← shownEntries? entries) ++ "\x7d"

/-- The forms of several values. -/
def shownItems? : List Value → Option (List String)
  | [] => some []
  | item :: items => do return (← shown? item) :: (← shownItems? items)

/-- The forms of several entries. -/
def shownEntries? : List (String × Value) → Option (List String)
  | [] => some []
  | (key, value) :: entries => do
    return (Text.quoted key ++ ": " ++ (← shown? value)) :: (← shownEntries? entries)

end

end Value

end Precedence.Toml
