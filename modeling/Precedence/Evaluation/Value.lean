import Precedence.Number.Literal
import Precedence.Number.Rounding
import Precedence.Number.Shortest
import Precedence.Runtime
import Precedence.Tree.Operator
import Precedence.Tree.Quoted

/-!
# Values

A program computes with integers of any size, with floating point numbers, which divisions give, with the function
`echo`, and with no value at all, which is what that function returns.  Where one operand is a floating point number the
other one is converted; every other combination is an error.
-/

namespace Precedence

/-- What an expression evaluates to. -/
inductive Value where
  | none
  | int (n : Int)
  | float (x : Float)
  /-- The function that records its argument. -/
  | echo

/-- Why an expression has no value. -/
inductive EvalError where
  /-- A part of the tree could not be parsed. -/
  | incomplete
  /-- A node that means nothing. -/
  | meaningless (t : Tree)
  /-- An assignment to something that is no name. -/
  | badTarget (t : Tree)
  /-- A node to be shown in a message is nested too deeply for that. -/
  | nestedTooDeeply
  | undefined (name : String)
  | operandTypes (op : Operator) (left right : String)
  | operandType (type : String)
  /-- A call of something else than a function, which is shown by its text. -/
  | notCallable (text : String)
  | integerDivisionByZero
  | floatDivisionByZero
  | quotientTooLarge
  | integerTooLarge
  /-- An integer literal of too many digits. -/
  | literalTooLong (digits : Nat)
  /-- An integer of too many digits is to be shown. -/
  | integerTooLong
  deriving Inhabited

namespace EvalError

/-- What is said about an error. -/
def message : EvalError → String
  | incomplete => "cannot evaluate an incomplete expression"
  | meaningless t => "cannot evaluate " ++ t.quoted
  | badTarget t => "cannot assign to " ++ t.quoted
  | nestedTooDeeply => "a node is nested too deeply"
  | undefined name => "name " ++ Text.quoted name ++ " is not defined"
  | operandTypes op left right =>
    "unsupported operand type(s) for " ++ op.symbol ++ ": '" ++ left ++ "' and '" ++ right ++ "'"
  | operandType type => "bad operand type for unary -: '" ++ type ++ "'"
  | notCallable text => text ++ " is not callable"
  | integerDivisionByZero => "division by zero"
  | floatDivisionByZero => "float division by zero"
  | quotientTooLarge => "integer division result too large for a float"
  | integerTooLarge => "int too large to convert to float"
  | literalTooLong digits => literalTooLongMessage digits
  | integerTooLong => digitLimitMessage ""

/-- An error about a tree, unless the tree cannot be shown. -/
def about [Runtime] (error : Tree → EvalError) (t : Tree) : EvalError :=
  if t.depth < Runtime.treeDepth then error t else nestedTooDeeply

end EvalError

namespace Value

/-- The name of the type of a value. -/
def typeName : Value → String
  | none => "NoneType"
  | int _ => "int"
  | float _ => "float"
  | echo => "function"

/-- The text of a value. -/
def text : Value → Except EvalError String
  | none => .ok "None"
  | int n => if n.natAbs < Number.tenTo digitLimit then .ok (toString n) else .error .integerTooLong
  | float x => .ok (Number.shortestText x)
  | echo => .ok "<function echo>"

/-- A value as a floating point number. -/
def toFloat? : Value → Option (Except EvalError Float)
  | int n => some (match Number.ofInt? n with
    | some x => .ok x
    | Option.none => .error .integerTooLarge)
  | float x => some (.ok x)
  | _ => Option.none

end Value

namespace Operator

/-- The operation on integers. -/
def applyInt (op : Operator) (a b : Int) : Except EvalError Value :=
  match op with
  | add => .ok (.int (a + b))
  | sub => .ok (.int (a - b))
  | mul => .ok (.int (a * b))
  | div =>
    if b = 0 then .error .integerDivisionByZero
    else match Number.quotient? a b with
      | some x => .ok (.float x)
      | none => .error .quotientTooLarge

/-- The operation on floating point numbers. -/
def applyFloat (op : Operator) (x y : Float) : Except EvalError Value :=
  match op with
  | add => .ok (.float (x + y))
  | sub => .ok (.float (x - y))
  | mul => .ok (.float (x * y))
  | div => if y == 0 then .error .floatDivisionByZero else .ok (.float (x / y))

/-- The operation on values. -/
def apply (op : Operator) (left right : Value) : Except EvalError Value :=
  match left, right with
  | .int a, .int b => op.applyInt a b
  | left, right =>
    match left.toFloat?, right.toFloat? with
    | some x, some y => do op.applyFloat (← x) (← y)
    | _, _ => .error (.operandTypes op left.typeName right.typeName)

end Operator

/-- The negation of a value. -/
def Value.negate : Value → Except EvalError Value
  | int n => .ok (int (-n))
  | float x => .ok (float (-x))
  | value => .error (.operandType value.typeName)

end Precedence
