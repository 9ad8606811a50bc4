import Precedence.Pattern.Basic

/-!
# Widths

How many characters a node may match: at least `least`, and at most `most` if there is a bound.  What is looked for
behind a place must have a fixed width.
-/

namespace Precedence.Pattern

/-- The least and the greatest number of characters that a node matches. -/
structure Width where
  least : Nat
  most : Option Nat
  deriving DecidableEq

namespace Width

def fixed (n : Nat) : Width := ⟨n, some n⟩

def add (v w : Width) : Width :=
  ⟨v.least + w.least, v.most.bind fun a => w.most.map (a + ·)⟩

def join (v w : Width) : Width :=
  ⟨min v.least w.least, v.most.bind fun a => w.most.map (max a)⟩

/-- The width of a number of rounds. -/
def rounds (least : Nat) (most : Option Nat) (w : Width) : Width :=
  ⟨least * w.least,
    if w.most = some 0 || most = some 0 then some 0 else w.most.bind fun a => most.map (a * ·)⟩

/-- The common number of characters of all matches. -/
def fixed? (w : Width) : Option Nat := if w.most = some w.least then some w.least else none

end Width

/-- The width of a node, given the widths of the groups that have been closed. -/
def Node.width (groups : List (Nat × Width)) : Node → Width
  | empty | fail | anchor _ | look .. => .fixed 0
  | oneOf _ => .fixed 1
  | seq first second => (first.width groups).add (second.width groups)
  | alt first fail => first.width groups
  | alt first rest => (first.width groups).join (rest.width groups)
  | ifGroup _ yes no => (yes.width groups).join (no.width groups)
  | group _ body | atomic body => body.width groups
  | again index _ => (groups.lookup index).getD (.fixed 0)
  | iterate least most _ body => (body.width groups).rounds least most

end Precedence.Pattern
