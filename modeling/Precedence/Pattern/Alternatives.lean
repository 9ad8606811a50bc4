import Precedence.Pattern.Basic

/-!
# Alternatives

Alternatives that begin alike are joined: what all of them begin with stands before them, once.  Alternatives of a
single listed character each are one set.  Both keep what is matched; they matter to the scan of an attempt that fails.
-/

namespace Precedence.Pattern

/-- Whether the node has no parts, so that two of them are alike if they are equal. -/
def Node.isSimple : Node → Bool
  | oneOf _ | anchor _ | again .. => true
  | _ => false

/-- The set that an alternative is, if it is one that is not negated. -/
def setOf? : List Node → Option CharSet
  | [.oneOf set] => if set.negated then none else some set
  | _ => none

/-- The alternatives as one node. -/
def Node.ofAlternatives (alternatives : List (List Node)) : Node :=
  match alternatives.mapM setOf? with
  | some sets => oneOf (.union sets)
  | none => choice (alternatives.map concat)

/-- The nodes that the first alternative and the others begin with, and the alternatives of what is left of them. -/
def joinAlternatives : List Node → List (List Node) → List Node
  | [], others => [.ofAlternatives ([] :: others)]
  | node :: nodes, others =>
    if node.isSimple && others.all (·.head? == some node) then
      node :: joinAlternatives nodes (others.map List.tail)
    else [.ofAlternatives ((node :: nodes) :: others)]

/-- The nodes of alternatives. -/
def nodesOf : List (List Node) → List Node
  | [] => []
  | [nodes] => nodes
  | first :: others => joinAlternatives first others

end Precedence.Pattern
