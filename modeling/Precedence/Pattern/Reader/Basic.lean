import Precedence.Pattern.Alternatives
import Precedence.Pattern.Error
import Precedence.Pattern.Lexeme
import Precedence.Pattern.Width

/-!
# The state of a pattern reader

What has been read of a pattern: the current alternative, the enclosing levels, the groups, and the options.  The steps
here take lexemes and report faults.  A backslash that ends the pattern is reported as soon as the lexeme before it has
been taken, ahead of any other fault of that lexeme.
-/

namespace Precedence.Pattern

/-- The options that a pattern may set. -/
structure Options where
  ignoreCase : Bool := false
  multiline : Bool := false
  dotAll : Bool := false
  verbose : Bool := false
  /-- Classes and cases are those of ASCII. -/
  asciiOnly : Bool := false
  /-- Classes and cases are asked to be those of Unicode, which they are anyway without the option before. -/
  unicode : Bool := false
  /-- Repetitions are refused. -/
  template : Bool := false
  deriving DecidableEq

namespace Options

/-- Which letters are alike in both cases. -/
def folding (options : Options) : Folding :=
  if !options.ignoreCase then .exact else if options.asciiOnly then .ascii else .unicode

/-- Whether options exclude each other, so that they cannot hold for a whole pattern. -/
def conflict (options : Options) : Bool := options.asciiOnly && options.unicode

/-- The options with the one of a flag set or cleared. -/
def set (value : Bool) (options : Options) : Char → Options
  | 'i' => { options with ignoreCase := value }
  | 'm' => { options with multiline := value }
  | 's' => { options with dotAll := value }
  | 'x' => { options with verbose := value }
  | 'a' => { options with asciiOnly := value }
  | 'u' => { options with unicode := value }
  | 't' => { options with template := value }
  | _ => options

/-- The options of a group that sets some flags and clears others.  A choice between ASCII and Unicode replaces the one
that was made around the group. -/
def within (options : Options) (on off : List Char) : Options :=
  let options := if on.contains 'a' || on.contains 'u' then { options with asciiOnly := false, unicode := false }
    else options
  off.foldl (set false) (on.foldl (set true) options)

end Options

/-- Whether a quantifier may follow. -/
inductive Repeatable where
  | yes
  | no
  | already
  deriving DecidableEq

/-- A part of the current alternative: nodes that a quantifier repeats together. -/
structure Item where
  nodes : List Node
  repeatable : Repeatable := .yes
  deriving DecidableEq

/-- A part of one node. -/
def Item.ofNode (node : Node) : Item := ⟨[node], .yes⟩

/-- A part that is an anchor. -/
def Item.ofAnchor (anchor : Anchor) : Item := ⟨[.anchor anchor], .no⟩

/-- The alternatives of a group and the parts of the current one, both lists with the last first. -/
structure Level where
  alternatives : List (List Node) := []
  items : List Item := []
  deriving DecidableEq

namespace Level

/-- The nodes of the current alternative. -/
def current (level : Level) : List Node := level.items.reverse.flatMap (·.nodes)

/-- The level with a new alternative. -/
def nextAlternative (level : Level) : Level := ⟨level.current :: level.alternatives, []⟩

/-- The nodes of all alternatives together. -/
def nodes (level : Level) : List Node := nodesOf (level.current :: level.alternatives).reverse

end Level

/-- What an open parenthesis has opened. -/
inductive Opener where
  | capture (index : Nat)
  | plain
  /-- A group with options of its own. -/
  | options
  | atomic
  | look (behind negated : Bool)
  /-- One of two alternatives, by whether the group has matched. -/
  | condition (index : Nat)
  deriving DecidableEq

/-- An open group: where it starts, and what is to be restored at its end. -/
structure Frame where
  opener : Opener
  start : Nat
  options : Options
  level : Level
  lookBehind : Option Nat
  deriving DecidableEq

/-- The state of a reader. -/
structure ReaderState where
  rest : List Lexeme
  /-- The pattern ends with a backslash that escapes nothing. -/
  dangling : Bool
  /-- The number of characters of the pattern. -/
  size : Nat
  options : Options := {}
  level : Level := {}
  frames : List Frame := []
  groupCount : Nat := 0
  names : List (String × Nat) := []
  /-- The groups that conditions refer to by numbers, with the positions of the numbers, the last first. -/
  conditions : List (Nat × Nat) := []
  /-- The widths of the closed groups. -/
  widths : List (Nat × Width) := []
  /-- The number of groups before the outermost look-behind that is open. -/
  lookBehind : Option Nat := none

/-- A step of reading a pattern. -/
abbrev Reader := StateT ReaderState (Except Error)

namespace Reader

/-- Report a fault at a position. -/
def fail {α : Type} (fault : Fault) (position : Nat) : Reader α := throw (.malformed fault (some position))

/-- The position of the next lexeme. -/
def position : Reader Nat := do
  let state ← get
  return match state.rest with
    | [] => state.size
    | lexeme :: _ => lexeme.position

/-- Report a fault that many characters before the next lexeme. -/
def failBefore {α : Type} (fault : Fault) (distance : Nat) : Reader α := do
  fail fault ((← position) - distance)

/-- Take the next lexeme. -/
def take? : Reader (Option Lexeme) := do
  let state ← get
  match state.rest with
  | [] => return none
  | lexeme :: rest =>
    if rest.isEmpty && state.dangling then fail .danglingBackslash (state.size - 1)
    set { state with rest }
    return some lexeme

/-- Take the next lexeme if it is the character. -/
def accept (c : Char) : Reader Bool := do
  match (← get).rest with
  | lexeme :: _ => if lexeme.isPlain c then discard take?; return true else return false
  | [] => return false

/-- Take as many characters of the class as there are, at most as many as the limit. -/
def takeWhile (holds : Char → Bool) : Nat → Reader (List Char)
  | 0 => return []
  | limit + 1 => do
    match (← get).rest with
    | lexeme :: _ =>
      if !lexeme.escaped && holds lexeme.char then
        discard take?
        return lexeme.char :: (← takeWhile holds limit)
      else return []
    | [] => return []

/-- A bound on the lexemes that are left. -/
def room : Reader Nat := return (← get).rest.length

/-- Append an item to the current alternative. -/
def append (item : Item) : Reader Unit :=
  modify fun state => { state with level.items := item :: state.level.items }

end Reader

end Precedence.Pattern
