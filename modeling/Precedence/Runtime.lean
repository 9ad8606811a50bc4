/-!
# The runtime

What the interpreter brings along that runs a program: how deeply its calls may be nested before it gives up, and the
names that characters have.  The definitions that depend on it, and the results about them, are for any runtime.
-/

namespace Precedence

/-- The limits of an interpreter, and the names of characters that it knows. -/
class Runtime where
  /-- How deeply the expressions of a text may be nested. -/
  expressionDepth : Nat
  /-- How deeply a tree may be nested that a message shows. -/
  treeDepth : Nat
  /-- How deeply the groups of a pattern may be nested. -/
  groupDepth : Nat
  /-- How deeply the values of a document may be nested. -/
  valueDepth : Nat
  /-- The code point of the character with a name. -/
  characterNamed? : String → Option Nat

/-- The runtime that is assumed where none is given.  It knows no names. -/
instance (priority := low) Runtime.usual : Runtime where
  expressionDepth := 490
  treeDepth := 970
  groupDepth := 490
  valueDepth := 980
  characterNamed? _ := none

end Precedence
