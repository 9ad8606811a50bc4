import Precedence.Text.Case
import Precedence.Text.Digit
import Precedence.Text.Space
import Precedence.Text.Word

/-!
# Sets of characters

What a pattern says about a single character: that it is one of some code points, ranges and classes, or none of them.
A set may take letters for alike that differ in case.  The character is then compared by its lower case, also with the
classes, and with the members of the set in any case.
-/

namespace Precedence.Pattern

/-! ### Cases -/

/-- Which letters are alike in both cases. -/
inductive Folding where
  /-- No letters. -/
  | exact
  /-- The letters of ASCII. -/
  | ascii
  /-- All letters. -/
  | unicode
  deriving DecidableEq

namespace Folding

/-- The lower case of a code point, as far as cases are alike. -/
def lower : Folding → Nat → Nat
  | exact, n => n
  | ascii, n => if 'A'.toNat ≤ n && n ≤ 'Z'.toNat then n + 32 else n
  | unicode, n => Text.lower n

/-- The code points that are alike to one in lower case. -/
def fellows : Folding → Nat → List Nat
  | exact, n => [n]
  | ascii, n => if 'a'.toNat ≤ n && n ≤ 'z'.toNat then [n, n - 32] else [n]
  | unicode, n => (n :: Text.siblings n).flatMap Text.lowerSources

/-- Whether a code point between the bounds is a letter in one of two cases. -/
def isCasedBetween : Folding → (low high : Nat) → Bool
  | exact, _, _ => false
  | ascii, low, high => low ≤ 'Z'.toNat && 'A'.toNat ≤ high || low ≤ 'z'.toNat && 'a'.toNat ≤ high
  | unicode, low, high => Text.isCasedBetween low high

end Folding

/-! ### Members -/

/-- The named classes of characters. -/
inductive Category where
  | digit
  | space
  | word
  deriving DecidableEq

/-- Whether a character is in the class, or in its ASCII part. -/
def Category.contains (category : Category) (asciiOnly : Bool) (c : Char) : Bool :=
  (!asciiOnly || c.toNat < 128) && match category with
    | digit => Text.isDigit c
    | space => Text.isSpace c
    | word => Text.isWord c

/-- A part of a set of characters: a code point, a range of them, or a class or its complement. -/
inductive SetItem where
  | char (codePoint : Nat)
  | range (low high : Nat)
  | named (category : Category) (asciiOnly negated : Bool)
  deriving DecidableEq

namespace SetItem

/-- Whether a character belongs to the part of the set. -/
def contains (item : SetItem) (c : Char) : Bool :=
  match item with
  | char codePoint => c.toNat = codePoint
  | range low high => low ≤ c.toNat && c.toNat ≤ high
  | named category asciiOnly negated => category.contains asciiOnly c != negated

/-- The last code point of the basic plane. -/
def basicLimit : Nat := 0xFFFF

/-- Whether a code point in lower case belongs to the part of the set.  Outside of the basic plane a code point is taken
as it is, and a range holds a letter if it holds it in either case. -/
def containsLower (folding : Folding) (item : SetItem) (n : Nat) : Bool :=
  match item with
  | char codePoint => if codePoint ≤ basicLimit then (folding.fellows n).contains codePoint else n = codePoint
  | range low high =>
    let isBetween (m : Nat) := low ≤ m && m ≤ high
    (folding.fellows n).any (fun m => isBetween m && m ≤ basicLimit) ||
      basicLimit < high && (isBetween n || isBetween (Text.upper n))
  | named .. => item.contains (.ofNat n)

/-- Whether cases matter to the part of a set, which they always do outside of the basic plane. -/
def isCased (folding : Folding) : SetItem → Bool
  | char codePoint => folding.isCasedBetween codePoint codePoint || basicLimit < codePoint
  | range low high => folding.isCasedBetween low high || basicLimit < high
  | named .. => false

end SetItem

/-! ### Sets -/

/-- A set of characters. -/
structure CharSet where
  items : List SetItem
  negated : Bool
  folding : Folding
  deriving DecidableEq

namespace CharSet

/-- The set of a single character. -/
def single (codePoint : Nat) (folding : Folding) : CharSet := ⟨[.char codePoint], false, folding⟩

/-- Whether the set holds letters in both cases. -/
def ignoresCase (set : CharSet) : Bool :=
  set.folding != .exact && match set.items with
    | [.char codePoint] => set.folding.isCasedBetween codePoint codePoint
    | items => items.any (·.isCased set.folding)

/-- Whether a code point in lower case is among the members. -/
def holdsLower (set : CharSet) (n : Nat) : Bool :=
  match set.items with
  | [.char codePoint] => (set.folding.fellows n).contains codePoint
  | items => items.any (·.containsLower set.folding n)

/-- Whether a character is in the set. -/
def contains (set : CharSet) (c : Char) : Bool :=
  (if set.ignoresCase then set.holdsLower (set.folding.lower c.toNat) else set.items.any (·.contains c)) != set.negated

/-- Where no letters are alike, a character is in the set if it is among the items or if the set is negated. -/
theorem contains_exact (items : List SetItem) (negated : Bool) (c : Char) :
    (CharSet.mk items negated .exact).contains c = (items.any (·.contains c) != negated) := rfl

/-- Whether the set holds one character, in one case only. -/
def isLiteral (set : CharSet) : Bool :=
  !set.ignoresCase && match set.items with
    | [.char _] => !set.negated
    | _ => false

/-- Whether the set is given by its members, and their case counts.  All characters but one, or but none, are not given
by members. -/
def isListed (set : CharSet) : Bool :=
  let excludes := set.negated && match set.items with
    | [] | [.char _] => true
    | _ => false
  !excludes && !set.ignoresCase

/-- The set of all characters of the sets, none of which is negated. -/
def union : List CharSet → CharSet
  | [] => ⟨[], false, .exact⟩
  | set :: sets => ⟨(set.items ++ sets.flatMap items).eraseDups, false, set.folding⟩

end CharSet

end Precedence.Pattern
