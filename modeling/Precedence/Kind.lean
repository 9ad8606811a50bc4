import Precedence.Scope

/-!
# Kinds of tokens

A kind says how its tokens bind and what they mean.  The binding power tells how tightly a token holds the expression on
its left; a power of zero or less never holds it.  The null denotation is what a token means at the start of an
expression, the left denotation what it means after one.

A kind may be a variant of another one.  Its lineage lists the kinds it is a variant of, itself first, and a test for a
kind accepts all its variants.  A key names one kind at a time; a kind that is declared under a key in use takes the
key, and what waits for the earlier kind goes on waiting for that one.
-/

namespace Precedence

/-- What tells a kind from all others: its key, and how many kinds have had the key before it. -/
structure KindId where
  key : String
  version : Nat := 0
  deriving DecidableEq

/-- A kind that a denotation waits for, with the name that messages call it by. -/
structure Delimiter where
  id : KindId
  name : String
  deriving DecidableEq

/-- What a token means at the start of an expression.  The numbers are the binding powers that operands are parsed
with. -/
inductive NullDenotation where
  /-- Nothing: an error is reported. -/
  | unexpected
  /-- The value of the token. -/
  | value
  /-- A failed tree, without a report. -/
  | absent
  /-- The operand that follows. -/
  | operand (power : Int)
  /-- The negation of the operand that follows. -/
  | negation (power : Int)
  /-- A node of the operand that follows. -/
  | labelled (label : String) (power : Int)
  /-- The expression up to a closing token. -/
  | group (close : Delimiter) (note : String)
  /-- A failed tree, with a report. -/
  | fault (code message : String) (notes : List String)
  /-- A node of the items up to a closing token. -/
  | list (label : String) (separator close : Delimiter)
  deriving DecidableEq

/-- What a token means after an expression. -/
inductive LeftDenotation where
  /-- Nothing: an error is reported. -/
  | unexpected
  /-- A node of both operands. -/
  | binary (label : String) (power : Int)
  /-- A node of both operands, tagged by the name of the kind, which binds its right operand as it binds the left. -/
  | operation
  /-- An assignment, which binds its right operand as it binds the left. -/
  | assignment
  /-- A list of statements, which goes on unless the input ends or is closed. -/
  | sequence (close : Delimiter)
  /-- A call with the argument up to a closing token. -/
  | call (close : Delimiter) (note : String)
  /-- A node of the operand before the token. -/
  | postfixed (label : String)
  /-- A node of three operands, the middle one up to a separator. -/
  | ternary (label : String) (separator : Delimiter) (power : Int)
  /-- A node of the operand before the token and the expression up to a closing token. -/
  | index (label : String) (close : Delimiter) (note : String)
  deriving DecidableEq

/-- A kind of tokens. -/
structure Kind where
  /-- What the kind is. -/
  id : KindId
  /-- The kinds it is a variant of, the nearest first. -/
  ancestors : List KindId
  /-- What a rule that makes such tokens calls the kind. -/
  label : String
  /-- What messages call a token of the kind. -/
  name : String
  bindingPower : Int
  /-- What a highlighted token is. -/
  scope? : Option Scope
  null : NullDenotation
  left : LeftDenotation
  deriving DecidableEq

namespace Kind

/-- The kind and those it is a variant of, itself first. -/
def lineage (kind : Kind) : List KindId := kind.id :: kind.ancestors

/-- Whether the kind is the given one, or a variant of it. -/
def isA (kind : Kind) (id : KindId) : Bool := kind.lineage.contains id

/-- The kind as something to wait for. -/
def delimiter (kind : Kind) : Delimiter := ⟨kind.id, kind.name⟩

/-- The kind that all others are variants of. -/
def base : Kind where
  id := ⟨"token", 0⟩
  ancestors := []
  label := "Token"
  name := "(token)"
  bindingPower := 0
  scope? := none
  null := .unexpected
  left := .unexpected

/-- A variant of the base kind, with the key that it is declared under first. -/
def ofKey (key : String) : Kind := { base with id := ⟨key, 0⟩, ancestors := [base.id] }

/-- The end of the input. -/
def endOfInput : Kind := { ofKey "end" with label := "EndToken", name := "(end)" }

/-- Whether a token of the kind ends the input. -/
def isEnd (kind : Kind) : Bool := kind.isA endOfInput.id

end Kind

/-- A token: a kind and the text it was made from. -/
structure Token where
  kind : Kind
  value : String
  deriving DecidableEq

namespace Token

/-- The token after the last one. -/
def endOfInput : Token := ⟨.endOfInput, "(end)"⟩

/-- Whether the token ends the input. -/
def isEnd (token : Token) : Bool := token.kind.isEnd

/-- Whether the token is the delimiter. -/
def is (token : Token) (delimiter : Delimiter) : Bool := token.kind.isA delimiter.id

end Token

/-- The value of a token that is made without one. -/
def Kind.defaultValue (kind : Kind) : String := if kind.isEnd then Token.endOfInput.value else ""

end Precedence
