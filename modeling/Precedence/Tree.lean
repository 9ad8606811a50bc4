/-!
# Parse trees

A parse tree is an atom, a node with its members in order, or the mark of a subtree that could not be parsed.  A node
whose first member is an atom is tagged by it.

Trees may be much deeper than a recursion should go, so the walks over them keep their pending work on a stack, a list
that begins with its top.  `weight` is the measure that such a walk decreases: it counts a node more than all that the
node may leave behind on the stack.
-/

namespace Precedence

/-- A parse tree. -/
inductive Tree where
  /-- A subtree that could not be parsed. -/
  | failed
  /-- A number, a name, or the tag of a node. -/
  | atom (text : String)
  /-- A node and its members. -/
  | node (members : List Tree)
  deriving Inhabited

namespace Tree

mutual

/-- A bound on the steps that a walk over the tree takes. -/
def weight : Tree → Nat
  | failed => 1
  | atom _ => 1
  | node members => 3 + weights members

/-- The weight of several trees that are visited one after the other. -/
def weights : List Tree → Nat
  | [] => 0
  | t :: ts => weight t + 1 + weights ts

end

mutual

/-- The nesting of nodes: an atom has depth 0, a node is one deeper than its deepest member. -/
def depth : Tree → Nat
  | failed => 0
  | atom _ => 0
  | node members => depths members + 1

/-- The depth of the deepest of several trees. -/
def depths : List Tree → Nat
  | [] => 0
  | t :: ts => max (depth t) (depths ts)

end

/-- The tag of a list of statements. -/
def sequenceLabel : String := "sequence"

/-- The tag of an assignment. -/
def assignLabel : String := "assign"

/-- The tag of a negation. -/
def negateLabel : String := "-"

/-- Whether the tree is a node that begins with the given atom. -/
def isTagged (t : Tree) (label : String) : Bool :=
  match t with
  | node (atom text :: _) => text == label
  | _ => false

/-- The atom of a tree that is one. -/
def text? : Tree → Option String
  | atom text => some text
  | _ => none

end Tree

/-- The stack with the items put on it one after the other, so that the last of them is on top. -/
def pushAll {α : Type} (stack : List α) : List α → List α
  | [] => stack
  | item :: items => pushAll (item :: stack) items

@[simp] theorem pushAll_eq {α : Type} (stack items : List α) : pushAll stack items = items.reverse ++ stack := by
  induction items generalizing stack with
  | nil => rfl
  | cons item items ih => simp [pushAll, ih]

end Precedence
