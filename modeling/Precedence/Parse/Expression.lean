import Precedence.Parse.Context
import Precedence.Runtime
import Precedence.Tree.Negation
import Precedence.Tree.Statements

/-!
# Expressions

An expression begins with a token's null denotation.  As long as the next token binds more tightly than the power the
expression is parsed with, its left denotation takes what has been parsed as its left operand.  Operands are
expressions again, parsed with the powers that the denotations give.

Each operand is nested one deeper than the expression it belongs to, and the depth that is left bounds the recursion.
The loops over operators and over the items of a list consume a token in every round, and where no token is left they
have ended.  So they recurse on the tokens that are left when they begin, the `room`.
-/

namespace Precedence

namespace Parse

/-- The report on a token in a place where it means nothing. -/
def unexpected (token : Token) (place : String) : Parse Tree := do
  report Diagnostic.unexpectedToken ("unexpected " ++ shown token ++ " in " ++ place ++ " position") []
  return .failed

/-- The items of a list: expressions, as long as separators follow, up to a closing token or the end. -/
def items (parse : Int → Parse Tree) (separator close : Delimiter) : (room : List Token) → Parse (List Tree)
  | [] => return []
  | _ :: room => do
    let next ← lookahead
    if next.isEnd || next.is close then return []
    let item ← parse 0
    if (← lookahead).is separator then
      let _ ← advance
      return item :: (← items parse separator close room)
    else return [item]

end Parse

open Parse

/-- Parse what begins with the token, at the start of an expression. -/
def NullDenotation.run (parse : Int → Parse Tree) (token : Token) : NullDenotation → Parse Tree
  | unexpected => Parse.unexpected token "prefix"
  | value => return .atom token.value
  | absent => return .failed
  | operand power => parse power
  | negation power => return (← parse power).negated
  | labelled label power => return .node [.atom label, ← parse power]
  | group close note => do
    let inner ← parse 0
    let _ ← expect close note
    return inner
  | fault code message notes => do
    report code message notes
    return .failed
  | list label separator close => do
    let members ← items parse separator close (← get).rest
    let _ ← expect close ""
    return .node (.atom label :: members)

/-- The statements on the left of a separator with the one on its right, if there is one. -/
def Tree.followedBy (left : Tree) (right : Option Tree) : Tree :=
  let members := match left.sequenceMembers? with
    | some members => members
    | none => [left]
  .node (.atom sequenceLabel :: members ++ right.toList)

/-- A parsed tree, unless it has failed. -/
def Tree.succeeded? : Tree → Option Tree
  | failed => none
  | t => some t

/-- Parse what goes on with the token, after an expression. -/
def LeftDenotation.run (parse : Int → Parse Tree) (token : Token) (left : Tree) : LeftDenotation → Parse Tree
  | unexpected => Parse.unexpected token "infix"
  | binary label power => return .node [.atom label, left, ← parse power]
  | operation => return .node [.atom token.kind.name, left, ← parse token.kind.bindingPower]
  | assignment => return .node [.atom Tree.assignLabel, left, ← parse token.kind.bindingPower]
  | sequence close => do
    let next ← lookahead
    if next.isEnd || next.is close then return left.followedBy none
    return left.followedBy (← parse token.kind.bindingPower).succeeded?
  | call close note => do
    let argument ← parse 0
    let _ ← expect close note
    return .node [left, argument]
  | postfixed label => return .node [.atom label, left]
  | ternary label separator power => do
    let middle ← parse 0
    let _ ← expect separator ""
    return .node [.atom label, left, middle, ← parse power]
  | index label close note => do
    let inner ← parse 0
    let _ ← expect close note
    return .node [.atom label, left, inner]

/-- Parse an expression that begins with the token. -/
def Token.parseNull (parse : Int → Parse Tree) (token : Token) : Parse Tree := token.kind.null.run parse token

/-- Parse on with the token, after an expression. -/
def Token.parseLeft (parse : Int → Parse Tree) (token : Token) (left : Tree) : Parse Tree :=
  token.kind.left.run parse token left

namespace Parse

/-- Extend an expression by the tokens that bind more tightly than the power. -/
def extend (parse : Int → Parse Tree) (power : Int) : (room : List Token) → Tree → Parse Tree
  | [], left => return left
  | _ :: room, left => do
    if power < (← lookahead).kind.bindingPower then
      let token ← advance
      extend parse power room (← token.parseLeft parse left)
    else return left

/-- Parse an expression with the given power, to the given depth of nesting. -/
def expression : (depth : Nat) → (power : Int) → Parse Tree
  | 0, _ => throw ⟨⟩
  | depth + 1, power => do
    let left ← (← advance).parseNull (expression depth)
    extend (expression depth) power (← get).rest left

/-- How deeply expressions may be nested. -/
def depthLimit [Runtime] : Nat := Runtime.expressionDepth

end Parse

end Precedence
