import Precedence.Pattern.CharSet

/-!
# Regular expressions

What a pattern is made of: sets of characters, anchors, groups, alternatives, repetitions, and looks ahead or behind.
-/

namespace Precedence.Pattern

/-- What has to hold at a place between two characters. -/
inductive Anchor where
  /-- The start of the text. -/
  | textStart
  /-- The start of a line. -/
  | lineStart
  /-- The end of the text. -/
  | textEnd
  /-- The end of the text, or the place before a newline that ends it. -/
  | lastLineEnd
  /-- The end of a line. -/
  | lineEnd
  /-- An edge of a word. -/
  | boundary (asciiOnly : Bool)
  /-- A place that is no edge of a word. -/
  | noBoundary (asciiOnly : Bool)
  deriving DecidableEq

/-- How a repetition chooses among its numbers of rounds. -/
inductive Preference where
  /-- As many rounds as possible first. -/
  | greedy
  /-- As few rounds as possible first. -/
  | reluctant
  /-- As many rounds as possible, and no others. -/
  | possessive
  deriving DecidableEq

/-- A regular expression. -/
inductive Node where
  | empty
  | fail
  | oneOf (set : CharSet)
  | anchor (anchor : Anchor)
  | seq (first second : Node)
  /-- An alternative and those after it, down to `fail`. -/
  | alt (first rest : Node)
  /-- A group.  With an index it remembers what it matched. -/
  | group (index? : Option Nat) (body : Node)
  /-- The text that a group matched, once more. -/
  | again (index : Nat) (folding : Folding)
  | iterate (least : Nat) (most : Option Nat) (preference : Preference) (body : Node)
  /-- A match of the body that consumes nothing; behind the place, at the given distance, or ahead of it. -/
  | look (behind : Option Nat) (negated : Bool) (body : Node)
  /-- The first match of the body, and no other. -/
  | atomic (body : Node)
  /-- One of two nodes, the first if the group has matched. -/
  | ifGroup (index : Nat) (yes no : Node)
  deriving DecidableEq

namespace Node

/-- The nodes one after the other. -/
def concat : List Node → Node
  | [] => empty
  | [node] => node
  | node :: nodes => seq node (concat nodes)

/-- The nodes as alternatives. -/
def choice : List Node → Node
  | [] => fail
  | node :: nodes => alt node (choice nodes)

/-- The set that the node matches a character of, if it does nothing else. -/
def unit? : Node → Option CharSet
  | oneOf set => some set
  | group none body => body.unit?
  | _ => none

/-- The set that the first character must be in, if the node begins with a set that is given by its members.  What
follows the node has the given first set; it counts if the node is empty. -/
def lead (tail : Option CharSet) : Node → Option CharSet
  | empty => tail
  | oneOf set => if set.isListed then some set else none
  | seq first second => first.lead (second.lead tail)
  | group none body => body.lead tail
  | _ => none

end Node

end Precedence.Pattern
