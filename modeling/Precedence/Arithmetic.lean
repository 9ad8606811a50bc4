import Precedence.Kind.Table
import Precedence.Parser

/-!
# The arithmetic grammar

The rules of arithmetic expressions: numbers and symbols, the four operations, signs, assignments, parentheses for
groups and calls, and semicolons between statements.  Every pattern takes the white space around its token.  A number is
also a symbol by its pattern, so the rule for numbers comes before the one for symbols.
-/

namespace Precedence.Arithmetic

/-- The patterns of the grammar and the kinds they belong to. -/
def patterns : List (String × Kind) :=
  [("\\s*(\\d+)\\s*", .number),
   ("\\s*(\\+)\\s*", .plus),
   ("\\s*(-)\\s*", .minus),
   ("\\s*(\\*)\\s*", .times),
   ("\\s*(/)\\s*", .divide),
   ("\\s*(\\()\\s*", .openParen),
   ("\\s*(\\))\\s*", .closeParen),
   ("\\s*(=)\\s*", .assign),
   ("\\s*(;)\\s*", .sequence),
   ("\\s*([a-zA-Z0-9_]+)\\s*", .symbol)]

/-- The rules of the grammar, with the patterns as the usual runtime reads them. -/
def rules : List Rule := patterns.filterMap fun (source, kind) => (Rule.ofSource source kind).toOption

/-- The parser of the grammar. -/
def parser (strict : Bool) : Parser := ⟨rules, strict⟩

end Precedence.Arithmetic
