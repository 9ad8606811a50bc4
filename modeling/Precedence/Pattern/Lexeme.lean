/-!
# Lexemes of patterns

A pattern is read lexeme by lexeme: a character is one lexeme, and so are a backslash and the character after it.
-/

namespace Precedence.Pattern

/-- A character of a pattern, or a character after a backslash. -/
structure Lexeme where
  char : Char
  escaped : Bool
  position : Nat
  deriving DecidableEq

/-- How the lexeme is written. -/
def Lexeme.chars (lexeme : Lexeme) : List Char :=
  if lexeme.escaped then ['\\', lexeme.char] else [lexeme.char]

/-- How the lexeme is written. -/
def Lexeme.text (lexeme : Lexeme) : String := String.ofList lexeme.chars

/-- Whether the lexeme is the character itself. -/
def Lexeme.isPlain (lexeme : Lexeme) (c : Char) : Bool := !lexeme.escaped && lexeme.char == c

/-- The lexemes of a text, and whether it ends with a backslash that escapes nothing. -/
def lexemes (position : Nat) : List Char → List Lexeme × Bool
  | [] => ([], false)
  | c :: text =>
    if c = '\\' then
      match text with
      | [] => ([], true)
      | escaped :: text =>
        let (rest, dangling) := lexemes (position + 2) text
        (⟨escaped, true, position⟩ :: rest, dangling)
    else
      let (rest, dangling) := lexemes (position + 1) text
      (⟨c, false, position⟩ :: rest, dangling)

end Precedence.Pattern
