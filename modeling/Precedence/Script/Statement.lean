import Precedence.Script.Name
import Precedence.Tree.Statements

/-!
# Statements of a script

An expression is written operands first, from left to right, by a walk of the same kind as the one that evaluates: a
node is taken from the stack twice, first to queue its operands, and then to join their texts, which are the last
results.  Each node is queued with the least precedence it may have, and is put between parentheses if its precedence is
lower.  Operators of equal precedence associate to the left, so a right operand needs one more than its operator has.
-/

namespace Precedence.Script

/-- How tightly the binary operators bind. -/
def binaryPrecedences : List (String × Nat) := [("+", 1), ("-", 1), ("*", 2), ("/", 2)]

/-- The precedence of a negation. -/
def negationPrecedence : Nat := 3

/-- The precedence of numbers, names and calls. -/
def primaryPrecedence : Nat := 4

/-- The precedence of the operator that is the first member of a node. -/
def operatorPrecedence? (tag : Tree) : Option Nat := tag.text?.bind fun label => binaryPrecedences.lookup label

/-- How tightly the text of a node binds. -/
def precedenceOf (t : Tree) : Nat :=
  match t with
  | .node [tag, _, _] => (operatorPrecedence? tag).getD primaryPrecedence
  | .node [_, _] => if t.isTagged Tree.negateLabel then negationPrecedence else primaryPrecedence
  | _ => primaryPrecedence

/-- The operands of a node, each with the least precedence that it needs, or the error that the node has no text.  The
target of an assignment is checked here, before the value is written. -/
def operandsOf (t : Tree) : Except ScriptError (List (Tree × Nat)) :=
  match t with
  | .failed => .error .incomplete
  | .atom _ => .ok []
  | .node members =>
    if t.isTagged Tree.sequenceLabel then .error .sequenceAsValue
    else match members with
      | [tag, left, right] =>
        if t.isTagged Tree.assignLabel then
          match targetText left with
          | .ok _ => .ok [(right, 0)]
          | .error error => .error error
        else match operatorPrecedence? tag with
          | some precedence => .ok [(left, precedence), (right, precedence + 1)]
          | none => .error (.unsupported t)
      | [first, operand] =>
        if t.isTagged Tree.negateLabel then .ok [(operand, negationPrecedence)]
        else .ok [(first, primaryPrecedence), (operand, 0)]
      | _ => .error (.unsupported t)

/-- The text of a node whose operands have the given texts.  There are as many texts as operands, so the defaults of
`getD` are never taken. -/
def joined (t : Tree) (parts : List String) : Except ScriptError String :=
  match t with
  | .atom text => atomText text
  | .node [tag, left, _] =>
    if t.isTagged Tree.assignLabel then
      match targetText left with
      | .ok name => .ok ("(" ++ name ++ " := " ++ parts.getD 0 "" ++ ")")
      | .error error => .error error
    else .ok (parts.getD 0 "" ++ " " ++ tag.text?.getD "" ++ " " ++ parts.getD 1 "")
  | _ =>
    if t.isTagged Tree.negateLabel then .ok ("-" ++ parts.getD 0 "")
    else .ok (parts.getD 0 "" ++ "(" ++ parts.getD 1 "" ++ ")")

/-- A node on the stack, with the least precedence that it needs, and with the number of its operands once they have
been queued. -/
structure Pending where
  node : Tree
  least : Nat
  count? : Option Nat

/-- The steps that a node on the stack takes at most. -/
def Pending.weight (pending : Pending) : Nat :=
  match pending.count? with
  | none => pending.node.weight + 1
  | some _ => 1

/-- The steps that the nodes on a stack take at most. -/
def stackWeight : List Pending → Nat
  | [] => 0
  | pending :: stack => pending.weight + stackWeight stack

/-- The operands of a node weigh less than the node. -/
theorem weights_lt_of_operandsOf {t : Tree} {operands : List (Tree × Nat)} (h : operandsOf t = .ok operands) :
    Tree.weights (operands.map Prod.fst) < t.weight := by
  unfold operandsOf at h
  split at h
  · cases h
  · cases h
    simp [Tree.weights, Tree.weight]
  · rename_i members
    rw [Tree.weight]
    suffices Tree.weights (operands.map Prod.fst) ≤ Tree.weights members by omega
    repeat' split at h
    all_goals cases h
    all_goals simp only [List.map, Tree.weights]; omega

theorem stackWeight_queued (operands : List (Tree × Nat)) (stack : List Pending) :
    stackWeight (operands.map (fun operand => ⟨operand.1, operand.2, none⟩) ++ stack) =
      Tree.weights (operands.map Prod.fst) + stackWeight stack := by
  induction operands with
  | nil => simp [Tree.weights]
  | cons operand operands ih => simp [Tree.weights, stackWeight, Pending.weight] at ih ⊢; omega

/-- Write the nodes on the stack, given the results so far. -/
def loop (stack : List Pending) (results : List String) : Except ScriptError String :=
  match stack with
  | [] => .ok (results.headD "")
  | ⟨t, least, none⟩ :: stack =>
    match _h : operandsOf t with
    | .error error => .error error
    | .ok operands =>
      let queued := operands.reverse.map fun operand => ⟨operand.1, operand.2, none⟩
      loop (pushAll (⟨t, least, some operands.length⟩ :: stack) queued) results
  | ⟨t, least, some count⟩ :: stack =>
    let parts := results.drop (results.length - count)
    let others := results.take (results.length - count)
    match joined t parts with
    | .error error => .error error
    | .ok text =>
      let text := if precedenceOf t < least then "(" ++ text ++ ")" else text
      loop stack (others ++ [text])
termination_by stackWeight stack
decreasing_by
  · have := weights_lt_of_operandsOf _h
    simp [← List.map_reverse, stackWeight_queued, stackWeight, Pending.weight]
    omega
  · simp [stackWeight, Pending.weight]

/-- An expression. -/
def expression (t : Tree) : Except ScriptError String := loop [⟨t, 0, none⟩] []

/-- A statement: an assignment or an expression. -/
def statement (t : Tree) : Except ScriptError String :=
  match t with
  | .node [_, target, value] =>
    if t.isTagged Tree.assignLabel then do
      let name ← targetText target
      let text ← expression value
      return name ++ " = " ++ text
    else expression t
  | _ => expression t

/-- A script: the statements of a tree, one on a line. -/
def ofTree (t : Tree) : Except ScriptError String := do
  return "\n".intercalate (← t.statements.mapM statement)

/-- What is said about a tree that cannot be compiled. -/
def ScriptError.message : ScriptError → String
  | incomplete => "cannot format an incomplete expression"
  | sequenceAsValue => "a sequence cannot be used as a value"
  | unsupported t => "unsupported node " ++ t.toSexp
  | badTarget t => "cannot assign to " ++ t.toSexp
  | badName text => Text.quoted text ++ " is not a valid Python name"
  | literalTooLong digits => literalTooLongMessage digits

end Precedence.Script
