import Precedence.Diagnostic
import Precedence.Kind
import Precedence.Text.Quoted

/-!
# The state of a parse

A parse goes through a list of tokens and looks one token ahead.  Behind the last token of the list there are as many
ends of the input as are asked for.  The steps are `advance`, `expect` and `report`; each leaves the problems that were
reported before it in place.
-/

namespace Precedence

/-- The state of a parse. -/
structure Context where
  /-- The tokens that have not been consumed. -/
  rest : List Token
  /-- How many tokens have been consumed, ends of the input behind the list included. -/
  consumed : Nat := 0
  /-- The problems reported so far. -/
  diagnostics : List Diagnostic := []

/-- Expressions are nested more deeply than can be followed. -/
structure NestedTooDeeply where
  deriving DecidableEq

/-- A step of a parse.  A failed step leaves the state it has reached. -/
abbrev Parse := EStateM NestedTooDeeply Context

namespace Context

/-- The next token. -/
def lookahead (context : Context) : Token := context.rest.headD .endOfInput

/-- Whether the input ends here. -/
def atEnd (context : Context) : Bool := context.lookahead.isEnd

/-- The state behind the next token. -/
def skip (context : Context) : Context :=
  { context with rest := context.rest.tail, consumed := context.consumed + 1 }

/-- The state with one more problem. -/
def add (context : Context) (diagnostic : Diagnostic) : Context :=
  { context with diagnostics := context.diagnostics ++ [diagnostic] }

end Context

namespace Parse

/-- The next token, which stays where it is. -/
def lookahead : Parse Token := return (← get).lookahead

/-- Consume the next token. -/
def advance : Parse Token := modifyGet fun context => (context.lookahead, context.skip)

/-- Report an error. -/
def report (code message : String) (notes : List String) : Parse Unit :=
  modify (·.add ⟨.error, code, message, notes⟩)

/-- A token as messages show it. -/
def shown (token : Token) : String := token.kind.name ++ " (" ++ Text.quoted token.value ++ ")"

/-- Consume the next token if it is the delimiter, and report it otherwise.  An empty note is no note. -/
def expect (delimiter : Delimiter) (note : String) : Parse (Option Token) := do
  let next ← lookahead
  if next.is delimiter then return some (← advance)
  else
    report Diagnostic.expectedToken ("expected " ++ delimiter.name ++ ", got " ++ shown next)
      (if note = "" then [] else [note])
    return none

end Parse

end Precedence
