import Precedence.Text.Quoted
import Precedence.Tree

/-!
# Quoted trees

In a message a tree stands as a tuple: atoms are quoted texts, a failed subtree is `None`, the members of a node are
separated by a comma and a space, and a node with a single member has a comma after it.
-/

namespace Precedence.Tree

mutual

/-- The tuple that shows the tree. -/
def quotedChars : Tree → List Char
  | failed => "None".toList
  | atom text => Text.quotedChars text.toList
  | node [] => ['(', ')']
  | node [t] => '(' :: quotedChars t ++ [',', ')']
  | node (t :: ts) => '(' :: quotedChars t ++ quotedRest ts

/-- The members after the first, and the end of the tuple. -/
def quotedRest : List Tree → List Char
  | [] => [')']
  | t :: ts => ',' :: ' ' :: quotedChars t ++ quotedRest ts

end

/-- The quoted form of a tree. -/
def quoted (t : Tree) : String := String.ofList t.quotedChars

end Precedence.Tree
