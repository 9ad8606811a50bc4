import Precedence.Pattern.Matching
import Precedence.Pattern.Reader.Brackets
import Precedence.Pattern.Reader.Group
import Precedence.Pattern.Reader.Quantifier

/-!
# Reading patterns

The text of a pattern is read from left to right.  An open parenthesis puts the enclosing level on a stack of frames,
the closing one takes it off again, so the innermost group that is still open at the end is on top.
-/

namespace Precedence.Pattern

/-! ### Faults of a whole pattern -/

/-- The distance beyond which a look behind is refused. -/
def distanceLimit : Nat := 4294967295

/-- What is wrong with the width of a node that is looked for behind a place. -/
def Width.lookFault? (width : Width) : Option Fault :=
  if width.least > distanceLimit then some .lookTooWide
  else if width.fixed?.isNone then some .variableWidthLook
  else none

/-- The first part of a node that is refused: a repetition if there may be none, or a look behind. -/
def Node.fault? (template : Bool) (groups : List (Nat × Width)) : Node → Option Fault
  | seq first second | alt first second | ifGroup _ first second =>
    first.fault? template groups <|> second.fault? template groups
  | group _ body | atomic body | look none _ body => body.fault? template groups
  | look (some _) _ body => (body.width groups).lookFault? <|> body.fault? template groups
  | iterate _ _ preference body =>
    if template then some (.templateRepetition preference) else body.fault? template groups
  | _ => none

namespace Reader

variable [Runtime]

/-- Skip the rest of a line. -/
def lineComment : Nat → Reader Unit
  | 0 => return ()
  | fuel + 1 => do
    match ← take? with
    | none => return ()
    | some lexeme => if lexeme.isPlain '\n' then return () else lineComment fuel

/-- Read the item that begins with a character that is not escaped. -/
def item (start : Nat) (c : Char) : Reader Unit := do
  let options := (← get).options
  if options.verbose && [' ', '\t', '\n', '\r', '\x0b', '\x0c'].contains c then return ()
  if options.verbose && c = '#' then lineComment ((← room) + 1)
  else match c with
    | '[' => append (← bracketSet start)
    | '?' => quantify start 0 (some 1)
    | '*' => quantify start 0 none
    | '+' => quantify start 1 none
    | '{' => braces start
    | '.' =>
      let excluded := if options.dotAll then [] else [SetItem.char '\n'.toNat]
      append (.ofNode (.oneOf ⟨excluded, true, .exact⟩))
    | '(' => if ← accept '?' then extension start else openCapture start none
    | '^' => append (.ofAnchor (if options.multiline then .lineStart else .textStart))
    | '$' => append (.ofAnchor (if options.multiline then .lineEnd else .lastLineEnd))
    | c => append (single options c.toNat)

/-- Read what begins with the next lexeme. -/
def step (next : Lexeme) : Reader Unit := do
  if next.isPlain ')' then closeGroup next.position
  else if next.isPlain '|' then alternative next.position
  else
    discard take?
    if next.escaped then append (← escape next.char) else item next.position next.char

/-- Read up to the end.  Each step takes at least one lexeme, so their number is enough fuel. -/
def steps : Nat → Reader Unit
  | 0 => return ()
  | fuel + 1 => do
    match (← get).rest with
    | [] => return ()
    | next :: _ => step next; steps fuel

/-- Read a whole pattern. -/
def pattern (source : String) : Reader Pattern := do
  let state ← get
  if state.rest.isEmpty && state.dangling then fail .danglingBackslash (state.size - 1)
  steps (state.rest.length + 1)
  let state ← get
  if let frame :: _ := state.frames then fail .unterminatedGroup frame.start
  checkOptions
  checkConditions
  let body := Node.concat state.level.nodes
  if let some fault := body.fault? state.options.template state.widths then throw (.malformed fault none)
  return ⟨source, body, (body.width state.widths).least⟩

end Reader

/-- The pattern that a text describes. -/
def ofString [Runtime] (source : String) : Except Error Pattern := do
  let chars := source.toList
  let (rest, dangling) := lexemes 0 chars
  let (pattern, _) ← (Reader.pattern source).run { rest, dangling, size := chars.length }
  return pattern

end Precedence.Pattern
