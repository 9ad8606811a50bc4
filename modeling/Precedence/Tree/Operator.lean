/-!
# Operators

The binary operators of the arithmetic grammar, and the tags that stand for them when a tree is evaluated.
-/

namespace Precedence

/-- The binary operators. -/
inductive Operator where
  | add
  | sub
  | mul
  | div
  deriving DecidableEq

namespace Operator

/-- The tag of an operation. -/
def symbol : Operator → String
  | add => "+"
  | sub => "-"
  | mul => "*"
  | div => "/"

/-- The operator that a tag stands for. -/
def ofSymbol? (text : String) : Option Operator :=
  if text = "+" then some add
  else if text = "-" then some sub
  else if text = "*" then some mul
  else if text = "/" then some div
  else none

end Operator

end Precedence
