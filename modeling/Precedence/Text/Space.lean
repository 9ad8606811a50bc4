import Precedence.Text.Ranges

/-!
# White space

Blank characters in the widest sense: the separators of category `Zs`, the control characters that move the cursor,
the four information separators, and the line and paragraph separators.  This is the class that `\s` stands for in a
pattern.
-/

namespace Precedence.Text

/-- The white space characters. -/
def spaceRanges : Ranges :=
  [(0x9, 0xD), (0x1C, 0x20), (0x85, 0x85), (0xA0, 0xA0), (0x1680, 0x1680), (0x2000, 0x200A), (0x2028, 0x2029),
   (0x202F, 0x202F), (0x205F, 0x205F), (0x3000, 0x3000)]

/-- Whether the character is white space. -/
def isSpace (c : Char) : Bool := spaceRanges.contains c.toNat

end Precedence.Text
