import Precedence.Tree

/-!
# S-expressions

A tree is written as a symbolic expression: an atom as it is, a failed subtree as `<error>`, a node as its members
between parentheses, separated by single spaces.  The writer keeps what is still to be written in a list, in which a
closing parenthesis is an entry of its own; the flag tells whether the next tree follows an opening parenthesis (or
nothing) and so needs no space before it.
-/

namespace Precedence.Tree

/-- What is still to be written. -/
inductive SexpItem where
  | tree (t : Tree)
  | close

/-- How a failed subtree is written. -/
def failedText : String := "<error>"

/-- The weight of a tree to be written, or of a closing parenthesis. -/
def SexpItem.weight : SexpItem → Nat
  | tree t => t.weight + 1
  | close => 1

/-- The weight of all that is still to be written. -/
def sexpWeight : List SexpItem → Nat
  | [] => 0
  | item :: rest => item.weight + sexpWeight rest

theorem sexpWeight_members (members : List Tree) (rest : List SexpItem) :
    sexpWeight (members.map .tree ++ rest) = weights members + sexpWeight rest := by
  induction members with
  | nil => simp [weights]
  | cons t ts ih => simp [weights, sexpWeight, SexpItem.weight, ih]; omega

/-- The characters of the pending items. -/
def sexpChars (afterOpen : Bool) : List SexpItem → List Char
  | [] => []
  | .close :: rest => ')' :: sexpChars false rest
  | .tree t :: rest =>
    let written := match t with
      | failed => failedText.toList ++ sexpChars false rest
      | atom text => text.toList ++ sexpChars false rest
      | node members => '(' :: sexpChars true (members.map .tree ++ .close :: rest)
    if afterOpen then written else ' ' :: written
termination_by items => sexpWeight items
decreasing_by
  all_goals simp [sexpWeight, SexpItem.weight, sexpWeight_members, weight]
  all_goals omega

/-- The tree as a symbolic expression. -/
def toSexp (t : Tree) : String := String.ofList (sexpChars true [.tree t])

end Precedence.Tree
