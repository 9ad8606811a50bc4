import Precedence.Parser

/-!
# Highlighting

A text is cut into pieces by the same rules that make its tokens.  Of each match, what the first group captured is given
the scope of the rule's kind, and the characters before and after it are plain text; without a capture the whole match
has the scope.  What no rule accepts is one piece in error.

For a terminal, `colored` writes each line of a piece between the escape sequences of the nearest general scope that
has any.
-/

namespace Precedence

/-- A piece of a text with its place and its scope. -/
structure Piece where
  position : Nat
  scope : Scope
  text : List Char

/-- The scope of what the tokens of a kind were made from. -/
def Kind.scope (kind : Kind) : Scope := kind.scope?.getD .text

/-- The pieces of a match at the start of a text.  The capture may lie beyond the end of the match, in what was looked
at ahead; then its piece holds only what is within the match. -/
def Rule.pieces (rule : Rule) (found : Pattern.Match) (position : Nat) (text : List Char) : List Piece :=
  let matched := text.take found.length
  let (start, stop) := match found.firstGroup with
    | some capture => (capture.start, capture.stop)
    | none => (0, found.length)
  (if 0 < start then [⟨position, .text, matched.take start⟩] else [])
    ++ (if start < stop then [⟨position + start, rule.kind.scope, (matched.take stop).drop start⟩] else [])
    ++ (if stop < found.length then [⟨position + stop, .text, matched.drop stop⟩] else [])

/-- The first rule that matches at the start of the text, with its match. -/
def firstMatch? (text : List Char) : List Rule → Except MatchError (Option (Rule × Pattern.Match))
  | [] => .ok none
  | rule :: rules =>
    match rule.match? text with
    | .error error => .error error
    | .ok (some found) => .ok (some (rule, found))
    | .ok none => firstMatch? text rules

theorem length_pos_of_firstMatch? {rules : List Rule} {text : List Char} {rule : Rule} {found : Pattern.Match}
    (h : firstMatch? text rules = .ok (some (rule, found))) : 0 < found.length := by
  induction rules with
  | nil => cases h
  | cons rule rules ih =>
    unfold firstMatch? at h
    split at h
    · cases h
    · next hm => cases h; exact length_pos_of_match? hm
    · exact ih h

/-- The pieces of a text that begins at the position. -/
def piecesFrom (rules : List Rule) (position : Nat) (text : List Char) : Except MatchError (List Piece) :=
  if _nonempty : text = [] then .ok []
  else match _h : firstMatch? text rules with
    | .error error => .error error
    | .ok none => .ok [⟨position, .error, text⟩]
    | .ok (some (rule, found)) =>
      match piecesFrom rules (position + found.length) (text.drop found.length) with
      | .error error => .error error
      | .ok pieces => .ok (rule.pieces found position text ++ pieces)
termination_by text.length
decreasing_by
  have := length_pos_of_firstMatch? _h
  have := List.length_pos_iff.2 _nonempty
  simp; omega

/-- The pieces of a text. -/
def pieces (rules : List Rule) (source : String) : Except MatchError (List Piece) := piecesFrom rules 0 source.toList

/-! ### Terminals -/

/-- Every line end as a newline. -/
def unifyNewlines : List Char → List Char
  | [] => []
  | c :: text =>
    if c = '\r' then
      match text with
      | [] => ['\n']
      | next :: rest => if next = '\n' then '\n' :: unifyNewlines rest else '\n' :: unifyNewlines (next :: rest)
    else c :: unifyNewlines text

/-- A text without the byte order mark at its start, and with every line end as a newline. -/
def normalized (text : List Char) : List Char :=
  unifyNewlines (match text with
    | [] => []
    | c :: rest => if c.toNat = 0xFEFF then rest else c :: rest)

/-- The characters that end a line. -/
def isLineBreak (c : Char) : Bool :=
  [0x0A, 0x0B, 0x0C, 0x0D, 0x1C, 0x1D, 0x1E, 0x85, 0x2028, 0x2029].contains c.toNat

/-- The lines of a text, each with the characters that end it, given the characters of the first line that have been
read, the latest first.  A carriage return and a newline after it end one line. -/
def linesFrom (read : List Char) : List Char → List (List Char)
  | [] => if read.isEmpty then [] else [read.reverse]
  | c :: text =>
    if c = '\r' then
      match text with
      | [] => [(c :: read).reverse]
      | next :: rest =>
        if next = '\n' then (next :: c :: read).reverse :: linesFrom [] rest
        else (c :: read).reverse :: linesFrom [] (next :: rest)
    else if isLineBreak c then (c :: read).reverse :: linesFrom [] text
    else linesFrom (c :: read) text

/-- The lines of a text, each with the characters that end it. -/
def lines (text : List Char) : List (List Char) := linesFrom [] text

/-- An escape sequence that switches a terminal to a style. -/
def styleSequence (code : String) : String := "\x1b[" ++ code ++ "m"

/-- The styles of scopes, by their escape sequences. -/
def scopeStyles : List (List String × String) :=
  [(["Text", "Whitespace"], styleSequence "37"),
   (["Comment"], styleSequence "37"),
   (["Comment", "Preproc"], styleSequence "36"),
   (["Keyword"], styleSequence "34"),
   (["Keyword", "Type"], styleSequence "36"),
   (["Operator", "Word"], styleSequence "35"),
   (["Name", "Builtin"], styleSequence "36"),
   (["Name", "Function"], styleSequence "32"),
   (["Name", "Namespace"], styleSequence "04" ++ styleSequence "36"),
   (["Name", "Class"], styleSequence "04" ++ styleSequence "32"),
   (["Name", "Exception"], styleSequence "36"),
   (["Name", "Decorator"], styleSequence "90"),
   (["Name", "Variable"], styleSequence "31"),
   (["Name", "Constant"], styleSequence "31"),
   (["Name", "Attribute"], styleSequence "36"),
   (["Name", "Tag"], styleSequence "94"),
   (["Literal", "String"], styleSequence "33"),
   (["Literal", "Number"], styleSequence "34"),
   (["Generic", "Deleted"], styleSequence "91"),
   (["Generic", "Inserted"], styleSequence "32"),
   (["Generic", "Heading"], styleSequence "01"),
   (["Generic", "Subheading"], styleSequence "01" ++ styleSequence "35"),
   (["Generic", "Prompt"], styleSequence "01"),
   (["Generic", "Error"], styleSequence "91"),
   (["Error"], styleSequence "04" ++ styleSequence "91")]

/-- The escape sequence that ends a style. -/
def endOfStyle : String := styleSequence "39;49;00"

/-- The style of a scope: its own, or that of the nearest general scope that has one. -/
def Scope.style? (scope : Scope) : Option String :=
  (List.range (scope.path.length + 1)).reverse.findSome? fun n => scopeStyles.lookup (scope.path.take n)

/-- A line between escape sequences, with its newline behind them. -/
def styledLine (style : String) (line : List Char) : List Char :=
  let ended := line.getLast? = some '\n'
  let shown := if ended then line.dropLast else line
  style.toList ++ shown ++ endOfStyle.toList ++ (if ended then ['\n'] else [])

/-- A piece of text in the style of its scope. -/
def styledText (scope : Scope) (text : List Char) : List Char :=
  match scope.style? with
  | none => text
  | some style => (lines text).flatMap (styledLine style)

/-- The pieces of the normalized text. -/
def normalizedPieces (rules : List Rule) (source : String) : Except MatchError (List Piece) :=
  piecesFrom rules 0 (normalized source.toList)

/-- The text as a terminal shows it in color. -/
def colored (rules : List Rule) (source : String) : Except MatchError String :=
  match normalizedPieces rules source with
  | .error error => .error error
  | .ok pieces => .ok (String.ofList (pieces.flatMap fun piece => styledText piece.scope piece.text))

end Precedence
