import Precedence.Number.Literal
import Precedence.Pattern.Basic
import Precedence.Text.Quoted

/-!
# Malformed patterns

Why the text of a pattern is no regular expression, and at which character.  A message names the position, and also
line and column when the pattern spans several lines.
-/

namespace Precedence.Pattern

/-- What is wrong with a pattern. -/
inductive Fault where
  | unterminatedGroup
  | unbalancedParenthesis
  | nothingToRepeat
  | multipleRepeat
  | leastAboveMost
  | unterminatedSet
  | badRange (low high : String)
  | danglingBackslash
  | badEscape (escape : String)
  | incompleteEscape (escape : String)
  | octalTooLarge (escape : String)
  | missingBrace
  | missingCharacterName
  | undefinedCharacterName (name : String)
  | invalidGroup (index : Nat)
  | openGroup
  | groupInSameLook
  | unexpectedEnd
  | unknownExtension (text : String)
  | missingGroupName
  | unterminatedName (terminator : String)
  | badGroupName (name : String)
  | redefinedGroup (name : String) (index earlier : Nat)
  | unknownGroup (name : String)
  | badGroupNumber
  | tooManyBranches
  | unterminatedComment
  | flagsNotAtStart
  | localeFlag
  | incompatibleFlags
  | globalFlagTurnedOn
  | flagTurnedOffType
  | globalFlagTurnedOff
  | flagTurnedOnAndOff
  | unknownFlag
  | missingFlag
  | flagsNotClosed
  | flagsWithoutBody
  | lookTooWide
  | variableWidthLook
  /-- A repetition in a pattern that may have none. -/
  | templateRepetition (preference : Preference)
  /-- Flags of the whole pattern that exclude each other. -/
  | conflictingFlags
  deriving DecidableEq

/-- What a repetition is called in a message. -/
def Preference.operator : Preference → String
  | greedy => "MAX_REPEAT"
  | reluctant => "MIN_REPEAT"
  | possessive => "POSSESSIVE_REPEAT"

/-- What is said about a fault. -/
def Fault.message : Fault → String
  | unterminatedGroup => "missing ), unterminated subpattern"
  | unbalancedParenthesis => "unbalanced parenthesis"
  | nothingToRepeat => "nothing to repeat"
  | multipleRepeat => "multiple repeat"
  | leastAboveMost => "min repeat greater than max repeat"
  | unterminatedSet => "unterminated character set"
  | badRange low high => "bad character range " ++ low ++ "-" ++ high
  | danglingBackslash => "bad escape (end of pattern)"
  | badEscape escape => "bad escape " ++ escape
  | incompleteEscape escape => "incomplete escape " ++ escape
  | octalTooLarge escape => "octal escape value " ++ escape ++ " outside of range 0-0o377"
  | missingBrace => "missing \x7b"
  | missingCharacterName => "missing character name"
  | undefinedCharacterName name => "undefined character name " ++ Text.quoted name
  | invalidGroup index => "invalid group reference " ++ toString index
  | openGroup => "cannot refer to an open group"
  | groupInSameLook => "cannot refer to group defined in the same lookbehind subpattern"
  | unexpectedEnd => "unexpected end of pattern"
  | unknownExtension text => "unknown extension ?" ++ text
  | missingGroupName => "missing group name"
  | unterminatedName terminator => "missing " ++ terminator ++ ", unterminated name"
  | badGroupName name => "bad character in group name " ++ Text.quoted name
  | redefinedGroup name index earlier =>
    "redefinition of group name " ++ Text.quoted name ++ " as group " ++ toString index ++ "; was group "
      ++ toString earlier
  | unknownGroup name => "unknown group name " ++ Text.quoted name
  | badGroupNumber => "bad group number"
  | tooManyBranches => "conditional backref with more than two branches"
  | unterminatedComment => "missing ), unterminated comment"
  | flagsNotAtStart => "global flags not at the start of the expression"
  | localeFlag => "bad inline flags: cannot use 'L' flag with a str pattern"
  | incompatibleFlags => "bad inline flags: flags 'a', 'u' and 'L' are incompatible"
  | globalFlagTurnedOn => "bad inline flags: cannot turn on global flag"
  | flagTurnedOffType => "bad inline flags: cannot turn off flags 'a', 'u' and 'L'"
  | globalFlagTurnedOff => "bad inline flags: cannot turn off global flag"
  | flagTurnedOnAndOff => "bad inline flags: flag turned on and off"
  | unknownFlag => "unknown flag"
  | missingFlag => "missing flag"
  | flagsNotClosed => "missing -, : or )"
  | flagsWithoutBody => "missing :"
  | lookTooWide => "looks too much behind"
  | variableWidthLook => "look-behind requires fixed-width pattern"
  | templateRepetition preference => "internal: unsupported template operator " ++ preference.operator
  | conflictingFlags => "ASCII and UNICODE flags are incompatible"

/-- Why a pattern cannot be used. -/
inductive Error where
  /-- The text is no regular expression; a fault of the whole has no position. -/
  | malformed (fault : Fault) (position : Option Nat)
  /-- A repetition of more rounds than can be counted. -/
  | repetitionTooLarge
  /-- A number of rounds with more digits than are read. -/
  | repetitionTooLong (digits : Nat)
  /-- Groups within groups, too many to follow. -/
  | nestedTooDeeply
  deriving DecidableEq

/-- Whether the text is no regular expression; the other errors are flags that exclude each other, and numbers and
depths out of bounds. -/
def Error.isMalformed : Error → Bool
  | malformed fault _ => fault != .conflictingFlags
  | _ => false

/-- Line and column of a position, the first of each being 1. -/
def lineAndColumn (pattern : List Char) (position : Nat) : Nat × Nat :=
  let before := pattern.take position
  (before.count '\n' + 1, (before.reverse.takeWhile (· != '\n')).length + 1)

/-- What is said about an unusable pattern. -/
def Error.message (pattern : String) : Error → String
  | malformed fault none => fault.message
  | malformed fault (some position) =>
    let text := fault.message ++ " at position " ++ toString position
    if pattern.toList.contains '\n' then
      let (line, column) := lineAndColumn pattern.toList position
      text ++ " (line " ++ toString line ++ ", column " ++ toString column ++ ")"
    else text
  | repetitionTooLarge => "the repetition number is too large"
  | repetitionTooLong digits => literalTooLongMessage digits
  | nestedTooDeeply => "the pattern is nested too deeply"

end Precedence.Pattern
