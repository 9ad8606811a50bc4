import Precedence.Diagnostic
import Precedence.Rule

/-!
# Lexed texts

A text is cut into tokens from its start on: at each place the first rule that matches makes a token of what it
matches.  White space is not skipped; a pattern takes what surrounds its token.  Where no rule matches the cutting ends,
and the rest of the text is left over.
-/

namespace Precedence

/-- The token and its length that the first matching rule makes at the start of the text. -/
def firstToken? (text : List Char) : List Rule → Except MatchError (Option (Token × Nat))
  | [] => .ok none
  | rule :: rules =>
    match rule.accept? text with
    | .error error => .error error
    | .ok (some accepted) => .ok (some accepted)
    | .ok none => firstToken? text rules

theorem length_pos_of_match? {rule : Rule} {text : List Char} {found : Pattern.Match}
    (h : rule.match? text = .ok (some found)) : 0 < found.length := by
  unfold Rule.match? at h
  split at h
  · cases h
  · split at h
    · cases h
    · split at h
      · cases h
      · cases h; omega

theorem length_pos_of_accept? {rule : Rule} {text : List Char} {token : Token} {length : Nat}
    (h : rule.accept? text = .ok (some (token, length))) : 0 < length := by
  unfold Rule.accept? at h
  split at h
  · cases h
  · cases h
  · next hm => cases h; exact length_pos_of_match? hm

theorem length_pos_of_firstToken? {rules : List Rule} {text : List Char} {token : Token} {length : Nat}
    (h : firstToken? text rules = .ok (some (token, length))) : 0 < length := by
  induction rules with
  | nil => cases h
  | cons rule rules ih =>
    unfold firstToken? at h
    split at h
    · cases h
    · next ha => cases h; exact length_pos_of_accept? ha
    · exact ih h

/-- The tokens of a text, and what is left over. -/
def tokensOf (rules : List Rule) (text : List Char) : Except MatchError (List Token × List Char) :=
  if _nonempty : text = [] then .ok ([], [])
  else match _h : firstToken? text rules with
    | .error error => .error error
    | .ok none => .ok ([], text)
    | .ok (some (token, length)) =>
      match tokensOf rules (text.drop length) with
      | .error error => .error error
      | .ok (tokens, leftover) => .ok (token :: tokens, leftover)
termination_by text.length
decreasing_by
  have := length_pos_of_firstToken? _h
  have := List.length_pos_iff.2 _nonempty
  simp; omega

/-- The tokens of a text with the problems found on the way. -/
structure Lexed where
  tokens : List Token
  leftover : String
  diagnostics : List Diagnostic

/-- Whether no error was found. -/
def Lexed.ok (lexed : Lexed) : Bool := !hasErrors lexed.diagnostics

/-- The report that no rule matches. -/
def untokenizable (rules : List Rule) (leftover : List Char) : Diagnostic where
  severity := .error
  code := Diagnostic.untokenizable
  message := "unable to tokenize " ++ String.ofList (Text.quotedChars leftover)
  notes := ["none of the " ++ toString rules.length ++ " rule(s) match here"]

/-- Cut the text into tokens.  The end of the input is the last of them. -/
def lex (rules : List Rule) (source : String) : Except MatchError Lexed :=
  match tokensOf rules source.toList with
  | .error error => .error error
  | .ok (tokens, leftover) => .ok {
      tokens := tokens ++ [.endOfInput]
      leftover := String.ofList leftover
      diagnostics := if leftover.isEmpty then [] else [untokenizable rules leftover] }

end Precedence
