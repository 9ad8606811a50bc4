import Precedence.Evaluation.Memory
import Precedence.Tree.Statements

/-!
# Evaluation

An expression is evaluated operands first, from left to right.  The walk keeps a stack of nodes and a list of results.
A node is taken from the stack twice: first its operands are queued on top of it, and once they have given their values,
which are then the last results, the node itself is applied to them.  So trees of any depth can be evaluated.  An error
ends the evaluation; what was assigned and echoed before it stays.

`Tree.run` evaluates the statements of a tree one after the other.  Its result is the value of the last one, or nothing
if that is an assignment.
-/

namespace Precedence

/-- The result of an evaluation, and what it leaves behind. -/
abbrev Outcome := Except EvalError Value × Memory

/-- The name that an assignment is to: an atom that is no number. -/
def Tree.targetName? (t : Tree) : Option String :=
  match t with
  | atom text => if isIntegerLiteral text then none else some text
  | _ => none

namespace Evaluation

/-- A node on the stack, with the number of its operands once they have been queued. -/
structure Pending where
  node : Tree
  count? : Option Nat

/-- The steps that a node on the stack takes at most. -/
def Pending.weight (pending : Pending) : Nat :=
  match pending.count? with
  | none => pending.node.weight + 1
  | some _ => 1

/-- The steps that the nodes on a stack take at most. -/
def stackWeight : List Pending → Nat
  | [] => 0
  | pending :: stack => pending.weight + stackWeight stack

theorem stackWeight_queued (operands : List Tree) (stack : List Pending) :
    stackWeight (operands.map (fun operand => ⟨operand, none⟩) ++ stack) =
      Tree.weights operands + stackWeight stack := by
  induction operands with
  | nil => simp [Tree.weights]
  | cons t ts ih => simp [Tree.weights, stackWeight, Pending.weight] at ih ⊢; omega

variable [Runtime]

/-- The name that an assignment is to, or the error that there is none. -/
def target (t : Tree) : Except EvalError String :=
  match t.targetName? with
  | some name => .ok name
  | none => .error (.about .badTarget t)

/-- The operator of a node with the given first member. -/
def operator? (tag : Tree) : Option Operator := tag.text?.bind Operator.ofSymbol?

/-- The operands of a node, or the error that it has no value.  The target of an assignment is checked here, before the
value is evaluated. -/
def operandsOf (t : Tree) : Except EvalError (List Tree) :=
  match t with
  | .failed => .error .incomplete
  | .atom _ => .ok []
  | .node members =>
    if t.isTagged Tree.sequenceLabel then .ok members.tail
    else match members with
      | [tag, left, right] =>
        if t.isTagged Tree.assignLabel then
          match target left with
          | .ok _ => .ok [right]
          | .error error => .error error
        else if (operator? tag).isSome then .ok [left, right]
        else .error (.about .meaningless t)
      | [first, operand] => .ok (if t.isTagged Tree.negateLabel then [operand] else [first, operand])
      | _ => .error (.about .meaningless t)

/-- Call a value.  Only the function `echo` can be called. -/
def call (callee argument : Value) (memory : Memory) : Outcome :=
  match callee with
  | .echo => (.ok .none, memory.echo argument)
  | callee =>
    match callee.text with
    | .ok text => (.error (.notCallable text), memory)
    | .error error => (.error error, memory)

/-- The outcome of a node whose operands have the given values.  There are as many values as operands, so the defaults
of `getD` are never taken. -/
def apply (t : Tree) (args : List Value) (memory : Memory) : Outcome :=
  match t with
  | .atom text => (memory.lookup text, memory)
  | .node members =>
    if t.isTagged Tree.sequenceLabel then (.ok (args.getLast?.getD .none), memory)
    else match members with
      | [tag, left, _] =>
        if t.isTagged Tree.assignLabel then
          match target left with
          | .ok name => (.ok (args.getD 0 .none), memory.assign name (args.getD 0 .none))
          | .error error => (.error error, memory)
        else match operator? tag with
          | some op => (op.apply (args.getD 0 .none) (args.getD 1 .none), memory)
          | none => (.error (.about .meaningless t), memory)
      | _ =>
        if t.isTagged Tree.negateLabel then ((args.getD 0 .none).negate, memory)
        else call (args.getD 0 .none) (args.getD 1 .none) memory
  | .failed => (.error .incomplete, memory)

/-- The operands of a node weigh less than the node. -/
theorem weights_lt_of_operandsOf {t : Tree} {operands : List Tree} (h : operandsOf t = .ok operands) :
    Tree.weights operands < t.weight := by
  unfold operandsOf at h
  split at h
  · cases h
  · cases h
    simp [Tree.weights, Tree.weight]
  · rename_i members
    rw [Tree.weight]
    suffices Tree.weights operands ≤ Tree.weights members by omega
    repeat' split at h
    all_goals cases h
    · exact Tree.weights_tail_le members
    all_goals simp only [Tree.weights]; omega

/-- Evaluate the nodes on the stack, given the results so far. -/
def loop (stack : List Pending) (results : List Value) (memory : Memory) : Outcome :=
  match stack with
  | [] => (.ok (results.headD .none), memory)
  | ⟨t, none⟩ :: stack =>
    match _h : operandsOf t with
    | .error error => (.error error, memory)
    | .ok operands =>
      let queued := operands.reverse.map fun operand => ⟨operand, none⟩
      loop (pushAll (⟨t, some operands.length⟩ :: stack) queued) results memory
  | ⟨t, some count⟩ :: stack =>
    let args := results.drop (results.length - count)
    let others := results.take (results.length - count)
    match apply t args memory with
    | (.error error, memory) => (.error error, memory)
    | (.ok value, memory) => loop stack (others ++ [value]) memory
termination_by stackWeight stack
decreasing_by
  · have := weights_lt_of_operandsOf _h
    simp [← List.map_reverse, stackWeight_queued, stackWeight, Pending.weight]
    omega
  · simp [stackWeight, Pending.weight]

end Evaluation

namespace Tree

variable [Runtime]

/-- Evaluate an expression. -/
def value (t : Tree) (memory : Memory) : Outcome := Evaluation.loop [⟨t, none⟩] [] memory

/-- Evaluate statements one after the other, given the result of those before them. -/
def runStatements (result : Value) (memory : Memory) : List Tree → Outcome
  | [] => (.ok result, memory)
  | t :: ts =>
    match t.value memory with
    | (.error error, memory) => (.error error, memory)
    | (.ok value, memory) => runStatements (if t.isTagged assignLabel then .none else value) memory ts

/-- Evaluate the statements of a tree. -/
def run (t : Tree) (memory : Memory) : Outcome := runStatements .none memory t.statements

end Tree

end Precedence
