/-!
# Sets of code points

A character property is a list of ranges of code points, in increasing order.  `Ranges.find?` walks the list and stops
at the first range that begins beyond the code point.
-/

namespace Precedence.Text

/-- Inclusive ranges of code points, in increasing order. -/
abbrev Ranges := List (Nat × Nat)

/-- The range that holds the code point. -/
def Ranges.find? : Ranges → Nat → Option (Nat × Nat)
  | [], _ => none
  | (lo, hi) :: rest, n => if n < lo then none else if n ≤ hi then some (lo, hi) else find? rest n

/-- Whether some range holds the code point. -/
def Ranges.contains (ranges : Ranges) (n : Nat) : Bool := (ranges.find? n).isSome

end Precedence.Text
