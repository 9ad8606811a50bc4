import Precedence.Lexed
import Precedence.Parse.Expression

/-!
# Parsers

A parser is an ordered list of rules and a flag.  `parseResult` gives the tree of a text with all problems found; what
follows a place where no rule matches is left over, and the tokens before it are parsed.  `parse` gives the tree alone,
and a strict parser gives none if any error was found.
-/

namespace Precedence

/-- Rules in the order in which they are tried, and whether errors are refused. -/
structure Parser where
  rules : List Rule
  strict : Bool

/-- Why a text has no tree. -/
inductive ParseFailure where
  /-- A rule has made a match that cannot be used. -/
  | unusable (error : MatchError)
  | nestedTooDeeply
  /-- A strict parser has found errors. -/
  | rejected (diagnostics : List Diagnostic)

/-- A tree with all problems found. -/
structure ParseResult where
  value : Tree
  diagnostics : List Diagnostic
  leftover : String

/-- Whether no error was found. -/
def ParseResult.ok (result : ParseResult) : Bool := !hasErrors result.diagnostics

/-- Parse an expression, and report what follows it. -/
def Parse.wholeExpression (depth : Nat) : Parse Tree := do
  let value ← expression depth 0
  let context ← get
  if !context.atEnd then
    report Diagnostic.trailingInput ("unexpected " ++ shown context.lookahead ++ " after expression") []
  return value

namespace Parser

/-- The parser with one more rule, which is tried after all others. -/
def addRule (parser : Parser) (rule : Rule) : Parser := { parser with rules := parser.rules ++ [rule] }

/-- The tokens of a text. -/
def lex (parser : Parser) (source : String) : Except MatchError Lexed := Precedence.lex parser.rules source

/-- The tree of a text with all problems found. -/
def parseResult [Runtime] (parser : Parser) (source : String) : Except ParseFailure ParseResult :=
  match parser.lex source with
  | .error error => .error (.unusable error)
  | .ok lexed =>
    match (Parse.wholeExpression Parse.depthLimit).run { rest := lexed.tokens } with
    | .error _ _ => .error .nestedTooDeeply
    | .ok value context => .ok ⟨value, lexed.diagnostics ++ context.diagnostics, lexed.leftover⟩

/-- The tree of a text. -/
def parse [Runtime] (parser : Parser) (source : String) : Except ParseFailure Tree := do
  let result ← parser.parseResult source
  if parser.strict && !result.ok then throw (.rejected result.diagnostics)
  return result.value

end Parser

end Precedence
