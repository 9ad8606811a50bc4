import Precedence.Kind

/-!
# The kinds of the arithmetic grammar

Numbers and symbols stand for themselves.  Multiplication and division bind more tightly than addition and subtraction,
these more tightly than an assignment, and that more tightly than the separator of statements.  Signs before an operand
bind more tightly than any operator between two, and only an open parenthesis, for a call, binds more tightly still.
-/

namespace Precedence.Kind

/-- The binding power of a sign before an operand. -/
def signPower : Int := 70

def number : Kind :=
  { ofKey "number" with
    label := "NumberToken", name := "number"
    scope? := some .integer, null := .value }

def symbol : Kind :=
  { ofKey "symbol" with
    label := "SymbolToken", name := "symbol"
    scope? := some .name, null := .value }

def plus : Kind :=
  { ofKey "plus" with
    label := "PlusToken", name := "+", bindingPower := 50
    scope? := some .operator, null := .operand signPower, left := .operation }

def minus : Kind :=
  { ofKey "minus" with
    label := "MinusToken", name := "-", bindingPower := 50
    scope? := some .operator, null := .negation signPower, left := .operation }

def times : Kind :=
  { ofKey "mul" with
    label := "MulToken", name := "*", bindingPower := 60
    scope? := some .operator, left := .operation }

def divide : Kind :=
  { ofKey "div" with
    label := "DivToken", name := "/", bindingPower := 60
    scope? := some .operator, left := .operation }

/-- Only an open parenthesis takes this one; anywhere else it is an error. -/
def closeParen : Kind :=
  { ofKey "close_paren" with
    label := "CloseParenToken", name := ")", scope? := some .punctuation }

def openParen : Kind :=
  { ofKey "open_paren" with
    label := "OpenParenToken", name := "(", bindingPower := 80
    scope? := some .punctuation
    null := .group closeParen.delimiter "to close the group opened by '('"
    left := .call closeParen.delimiter "to close the argument opened by '('" }

def assign : Kind :=
  { ofKey "assign" with
    label := "AssignToken", name := "assign", bindingPower := 20
    scope? := some .operator, left := .assignment }

def sequence : Kind :=
  { ofKey "sequence" with
    label := "SequenceToken", name := "sequence", bindingPower := 10
    scope? := some .punctuation, left := .sequence closeParen.delimiter }

/-- The kinds that a configuration may name. -/
def arithmetic : List Kind :=
  [number, symbol, plus, minus, times, divide, openParen, closeParen, assign, sequence]

end Precedence.Kind
