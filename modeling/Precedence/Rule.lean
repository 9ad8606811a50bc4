import Precedence.Kind
import Precedence.Pattern.Reader

/-!
# Rules

A rule pairs a pattern with the kind of token that a match makes.  The value of the token is what the first group
matched.  A rule must consume something: a match of the empty text is an error, since reading would never get on.
-/

namespace Precedence

/-- A pattern and the kind of token it makes. -/
structure Rule where
  pattern : Pattern
  kind : Kind
  deriving DecidableEq

/-- Why a rule cannot be made. -/
structure RuleError where
  source : String
  error : Pattern.Error
  deriving DecidableEq

/-- What is said about a rule that cannot be made. -/
def RuleError.message (e : RuleError) : String :=
  let message := e.error.message e.source
  if e.error.isMalformed then "invalid pattern " ++ Text.quoted e.source ++ ": " ++ message else message

/-- Why a match of a rule cannot be used. -/
inductive MatchError where
  /-- The rule, in its quoted form, has matched the empty text at the start of the given one. -/
  | empty (rule text : String)
  /-- A group ends before it begins. -/
  | crossedGroup
  deriving DecidableEq

/-- What is said about a match that cannot be used. -/
def MatchError.message : MatchError → String
  | empty rule text => "rule " ++ rule ++ " matched the empty string at " ++ Text.quoted text
  | crossedGroup => "The span of capturing group is wrong, please report a bug for the re module."

namespace Rule

/-- The rule of a pattern that is given as text. -/
def ofSource [Runtime] (source : String) (kind : Kind) : Except RuleError Rule :=
  match Pattern.ofString source with
  | .ok pattern => .ok ⟨pattern, kind⟩
  | .error error => .error ⟨source, error⟩

/-- The quoted form of a rule. -/
def quoted (rule : Rule) : String :=
  "Rule(" ++ Text.quoted rule.pattern.source ++ ", " ++ rule.kind.label ++ ")"

/-- How many characters of the text a report shows. -/
def shownLength : Nat := 20

/-- The match of the rule at the start of the text. -/
def match? (rule : Rule) (text : List Char) : Except MatchError (Option Pattern.Match) :=
  match rule.pattern.match? text with
  | none => .ok none
  | some found =>
    if found.isCrossed then .error .crossedGroup
    else if found.length = 0 then .error (.empty rule.quoted (String.ofList (text.take shownLength)))
    else .ok (some found)

/-- The value of a token whose pattern has captured nothing. -/
def emptyValue : String := "(empty)"

/-- The token that a match makes. -/
def token (rule : Rule) (found : Pattern.Match) : Token :=
  ⟨rule.kind, match found.firstGroup with
    | some capture => String.ofList capture.text
    | none => emptyValue⟩

/-- The token at the start of the text, and its length. -/
def accept? (rule : Rule) (text : List Char) : Except MatchError (Option (Token × Nat)) :=
  match rule.match? text with
  | .error error => .error error
  | .ok none => .ok none
  | .ok (some found) => .ok (some (rule.token found, found.length))

end Rule

end Precedence
