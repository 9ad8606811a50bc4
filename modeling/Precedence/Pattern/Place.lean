import Precedence.Pattern.Basic

/-!
# Places

A place lies between two characters of a text.  It is kept as what is before it and what is after it, so moving on by a
character takes no search, and an anchor is a condition on the characters next to the place.
-/

namespace Precedence.Pattern

/-- A place in a text. -/
structure Place where
  /-- The characters before the place, the nearest first. -/
  before : List Char
  /-- The characters after the place. -/
  after : List Char
  /-- The number of characters before the place. -/
  position : Nat
  deriving DecidableEq

namespace Place

/-- The start of a text. -/
def start (text : List Char) : Place := ⟨[], text, 0⟩

/-- The place behind the next character. -/
def advance (place : Place) (c : Char) (rest : List Char) : Place := ⟨c :: place.before, rest, place.position + 1⟩

/-- The place the given number of characters back. -/
def retreat? (place : Place) (distance : Nat) : Option Place :=
  let passed := place.before.take distance
  if passed.length = distance then
    some ⟨place.before.drop distance, passed.reverse ++ place.after, place.position - distance⟩
  else none

/-- Whether so many characters are left. -/
def hasLeft (place : Place) (count : Nat) : Bool := (place.after.take count).length = count

/-- Whether the next character is in the set. -/
def isBefore (place : Place) (set : CharSet) : Bool := place.after.head?.any set.contains

/-- Whether an edge of a word is at the place. -/
def atBoundary (place : Place) (asciiOnly : Bool) : Bool :=
  let isWord := Category.contains .word asciiOnly
  (place.before.head?.any isWord) != (place.after.head?.any isWord)

/-- Whether the anchor holds at the place.  An empty text has neither edges of words nor places that are none. -/
def satisfies (place : Place) : Anchor → Bool
  | .textStart => place.before.isEmpty
  | .lineStart => place.before.head?.all (· == '\n')
  | .textEnd => place.after.isEmpty
  | .lastLineEnd => place.after.isEmpty || place.after == ['\n']
  | .lineEnd => place.after.head?.all (· == '\n')
  | .boundary asciiOnly => place.atBoundary asciiOnly
  | .noBoundary asciiOnly =>
    !(place.before.isEmpty && place.after.isEmpty) && !place.atBoundary asciiOnly

/-- The place behind the given text, if that comes next up to cases that are alike. -/
def skip? (folding : Folding) (place : Place) : List Char → Option Place
  | [] => some place
  | expected :: text =>
    match place.after with
    | [] => none
    | c :: rest =>
      if folding.lower c.toNat = folding.lower expected.toNat then (place.advance c rest).skip? folding text
      else none

/-- The place and those behind it that are reached through characters of the set, at most so many of them and out of the
given characters after the place; the farthest first, and in front of the others. -/
def through (set : CharSet) : (most : Option Nat) → List Char → Place → List Place → List Place
  | _, [], place, places => place :: places
  | most, c :: rest, place, places =>
    if most != some 0 && set.contains c then
      through set (most.map (· - 1)) rest (place.advance c rest) (place :: places)
    else place :: places

end Place

end Precedence.Pattern
