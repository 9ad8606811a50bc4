import Precedence.Number.Literal
import Precedence.Tree

/-!
# Negation

Negating an integer literal is done on its spelling; any other tree becomes the operand of a negation.
-/

namespace Precedence.Tree

/-- The negation of a tree. -/
def negated : Tree → Tree
  | atom text =>
    if isIntegerLiteral text then atom (String.ofList (toggleSign text.toList))
    else node [atom negateLabel, atom text]
  | operand => node [atom negateLabel, operand]

end Precedence.Tree
