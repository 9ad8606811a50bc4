import Precedence.Pattern.Reader.Escape
import Precedence.Text.Identifier

/-!
# Groups

An open parenthesis puts the enclosing level on a stack of frames, the closing one takes it off again.  A question mark
after the parenthesis begins an extension: a group that remembers nothing, a name, a look ahead or behind, options, or a
comment.
-/

namespace Precedence.Pattern.Reader

variable [Runtime]

/-- Open a group. -/
def openGroup (start : Nat) (opener : Opener) (options : Options) : Reader Unit := do
  if (← get).frames.length ≥ Runtime.groupDepth then throw .nestedTooDeeply
  modify fun state =>
    let lookBehind := match opener with
      | .look true _ => state.lookBehind.or (some state.groupCount)
      | _ => state.lookBehind
    { state with
      frames := ⟨opener, start, state.options, state.level, state.lookBehind⟩ :: state.frames
      options, level := {}, lookBehind }

/-- Open a group that remembers what it matched, under a name if it has one. -/
def openCapture (start : Nat) (name? : Option String) : Reader Unit := do
  let index := (← get).groupCount + 1
  if let some name := name? then
    if let some earlier := (← get).names.lookup name then
      failBefore (.redefinedGroup name index earlier) (name.length + 1)
    modify fun state => { state with names := (name, index) :: state.names }
  modify fun state => { state with groupCount := index }
  openGroup start (.capture index) (← get).options

/-- The nodes of a closed group.  The alternatives of a condition are not joined. -/
def levelNodes (level : Level) : Opener → List Node
  | .condition index =>
    match level.alternatives with
    | [] => [.ifGroup index (.concat level.current) .empty]
    | yes :: _ => [.ifGroup index (.concat yes) (.concat level.current)]
  | _ => level.nodes

/-- The part that a closed group is.  The nodes of a plain group and of a condition stand for themselves. -/
def closedGroup (nodes : List Node) (width : Width) : Opener → Item
  | .condition _ => ⟨nodes, .yes⟩
  | .plain => ⟨nodes, .yes⟩
  | .capture index => .ofNode (.group (some index) (.concat nodes))
  | .options => .ofNode (.group none (.concat nodes))
  | .atomic => .ofNode (.atomic (.concat nodes))
  | .look behind negated =>
    .ofNode (.look (if behind then some (width.fixed?.getD 0) else none) negated (.concat nodes))

/-- Report flags of the whole pattern that exclude each other. -/
def checkOptions : Reader Unit := do
  if (← get).options.conflict then throw (.malformed .conflictingFlags none)

/-- Close the innermost group.  Without one the pattern ends, and its flags are checked before that is a fault. -/
def closeGroup (position : Nat) : Reader Unit := do
  match (← get).frames with
  | [] =>
    checkOptions
    fail .unbalancedParenthesis position
  | frame :: frames =>
    discard take?
    modify fun state =>
      let nodes := levelNodes state.level frame.opener
      let width := (Node.concat nodes).width state.widths
      { state with
        frames
        options := frame.options
        lookBehind := frame.lookBehind
        level := { frame.level with items := closedGroup nodes width frame.opener :: frame.level.items }
        widths := match frame.opener with
          | .capture index => (index, width) :: state.widths
          | _ => state.widths }

/-- The name of a group, up to the terminator. -/
def groupName (terminator : Char) : Reader String := do
  let name ← textUntil terminator .missingGroupName ((← room) + 1) []
  if !Text.isIdentifier name then failBefore (.badGroupName (String.ofList name)) (name.length + 1)
  return String.ofList name

/-- A reference to a group by its name. -/
def namedReference : Reader Unit := do
  let name ← groupName ')'
  match (← get).names.lookup name with
  | none => failBefore (.unknownGroup name) (name.length + 1)
  | some index =>
    checkReference index (name.length + 1)
    append (.ofNode (.again index (← get).options.folding))

/-- The number of groups that no pattern has. -/
def indexLimit : Nat := 1073741823

/-- The group that a condition names or gives the number of. -/
def conditionGroup (name : List Char) : Reader Nat := do
  let distance := name.length + 1
  if Text.isIdentifier name then
    match (← get).names.lookup (String.ofList name) with
    | some index => return index
    | none => failBefore (.unknownGroup (String.ofList name)) distance
  let some index := naturalOf? name | failBefore (.badGroupName (String.ofList name)) distance
  if index = 0 then failBefore .badGroupNumber distance
  if index ≥ indexLimit then failBefore (.invalidGroup index) distance
  let start := (← position) - distance
  modify fun state => { state with conditions := (index, start) :: state.conditions }
  return index

/-- Open a group of two alternatives, of which the first is for the case that another group has matched. -/
def condition (start : Nat) : Reader Unit := do
  let index ← conditionGroup (← textUntil ')' .missingGroupName ((← room) + 1) [])
  if (← get).lookBehind.isSome then checkReference index 0
  openGroup start (.condition index) (← get).options

/-- Begin another alternative. -/
def alternative (position : Nat) : Reader Unit := do
  let state ← get
  if let some (Opener.condition _) := state.frames.head?.map (·.opener) then
    if !state.level.alternatives.isEmpty then fail .tooManyBranches position
  discard take?
  modify fun state => { state with level := state.level.nextAlternative }

/-- Report a condition on a group that there is not. -/
def checkConditions : Reader Unit := do
  let state ← get
  if let some (index, position) := state.conditions.reverse.find? (state.groupCount < ·.1) then
    fail (.invalidGroup index) position

/-- Skip a comment, up to the closing parenthesis. -/
def comment (start : Nat) : Nat → Reader Unit
  | 0 => fail .unterminatedComment start
  | fuel + 1 => do
    match ← take? with
    | none => fail .unterminatedComment start
    | some lexeme => if lexeme.isPlain ')' then return () else comment start fuel

/-- The letters that set options. -/
def isFlag (c : Char) : Bool := ['i', 'L', 'm', 's', 'x', 'a', 't', 'u'].contains c

/-- A fault for a character that is no flag: a letter is an unknown flag, anything else means that the flags end. -/
def flagFault (lexeme : Lexeme) (otherwise : Fault) : Fault :=
  if !lexeme.escaped && Text.isLetter lexeme.char then .unknownFlag else otherwise

/-- The flags from the given one on, up to one of the closing characters; the last first. -/
def flagRun (check : List Char → Char → Option Fault) (closers : List Char) (otherwise : Fault) :
    Nat → List Char → Char → Reader (List Char × Char)
  | 0, _, _ => failBefore otherwise 0
  | fuel + 1, flags, flag => do
    if let some fault := check flags flag then failBefore fault 0
    let some lexeme ← take? | failBefore otherwise 0
    if !lexeme.escaped && closers.contains lexeme.char then return (flag :: flags, lexeme.char)
    if lexeme.escaped || !isFlag lexeme.char then failBefore (flagFault lexeme otherwise) lexeme.chars.length
    flagRun check closers otherwise fuel (flag :: flags) lexeme.char

/-- Flags that cannot be turned on together. -/
def checkOn (flags : List Char) (flag : Char) : Option Fault :=
  if flag = 'L' then some .localeFlag
  else if flag = 'a' ∧ 'u' ∈ flags ∨ flag = 'u' ∧ 'a' ∈ flags then some .incompatibleFlags
  else none

/-- Flags that cannot be turned off. -/
def checkOff (_ : List Char) (flag : Char) : Option Fault :=
  if flag = 'a' ∨ flag = 'u' ∨ flag = 'L' then some .flagTurnedOffType else none

/-- Whether nothing has been read but options of the whole pattern. -/
def atStart (state : ReaderState) : Bool :=
  state.frames.isEmpty && state.level.alternatives.isEmpty && state.level.items.isEmpty

/-- Options, of the whole pattern or of the group they open. -/
def flags (start : Nat) (first : Char) : Reader Unit := do
  let fuel := (← room) + 1
  let (on, closer) ← if first = '-' then pure ([], '-')
    else flagRun checkOn [')', '-', ':'] .flagsNotClosed fuel [] first
  if closer = ')' then
    if !atStart (← get) then fail .flagsNotAtStart start
    modify fun state => { state with options := on.foldl (.set true) state.options }
  else
    if on.contains 't' then failBefore .globalFlagTurnedOn 1
    let off ← if closer = '-' then
        let some lexeme ← take? | failBefore .missingFlag 0
        if lexeme.escaped || !isFlag lexeme.char then
          failBefore (flagFault lexeme .missingFlag) lexeme.chars.length
        pure (← flagRun checkOff [':'] .flagsWithoutBody fuel [] lexeme.char).1
      else pure []
    if off.contains 't' then failBefore .globalFlagTurnedOff 1
    if on.any off.contains then failBefore .flagTurnedOnAndOff 1
    openGroup start .options ((← get).options.within on off)

/-- What follows an open parenthesis and the letter `P`. -/
def namedExtension (start : Nat) : Reader Unit := do
  if ← accept '<' then openCapture start (some (← groupName '>'))
  else if ← accept '=' then namedReference
  else
    let some lexeme ← take? | failBefore .unexpectedEnd 0
    failBefore (.unknownExtension ("P" ++ lexeme.text)) (lexeme.chars.length + 2)

/-- What follows an open parenthesis and a question mark. -/
def extension (start : Nat) : Reader Unit := do
  let options := (← get).options
  let some lexeme ← take? | failBefore .unexpectedEnd 0
  let unknown : Reader Unit := failBefore (.unknownExtension lexeme.text) (lexeme.chars.length + 1)
  if lexeme.escaped then unknown
  else match lexeme.char with
    | 'P' => namedExtension start
    | ':' => openGroup start .plain options
    | '#' => comment start ((← room) + 1)
    | '(' => condition start
    | '=' => openGroup start (.look false false) options
    | '!' => openGroup start (.look false true) options
    | '<' =>
      let some direction ← take? | failBefore .unexpectedEnd 0
      if direction.isPlain '=' then openGroup start (.look true false) options
      else if direction.isPlain '!' then openGroup start (.look true true) options
      else failBefore (.unknownExtension ("<" ++ direction.text)) (direction.chars.length + 2)
    | '>' => openGroup start .atomic options
    | c => if isFlag c || c = '-' then flags start c else unknown

end Precedence.Pattern.Reader
