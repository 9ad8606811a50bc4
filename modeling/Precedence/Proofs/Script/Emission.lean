import Precedence.Proofs.Script.Operands

/-!
# Emission of expressions

The text of an expression by recursion on the forms of its nodes.  No operand needs more than the precedence of numbers,
names and calls, so only operations are ever put between parentheses: that is what `emit` does, and it gives the same
text, or the same error, as the expression (`expression_eq_emit`).
-/

namespace Precedence.Script

/-- A text, between parentheses if its precedence is less than required. -/
def enclosed (precedence least : Nat) (text : String) : String :=
  if precedence < least then "(" ++ text ++ ")" else text

theorem parenthesized_eq (precedence least : Nat) (text : String) :
    parenthesized precedence least text = enclosed precedence least text :=
  (ite_eq_parenthesized precedence least text).symm

/-- The text of a tree where a least precedence is required. -/
def emit (t : Tree) (least : Nat) : Except ScriptError String :=
  match _h : t.form with
  | .incomplete => .error .incomplete
  | .atom text => atomText text
  | .sequence _ => .error .sequenceAsValue
  | .assign target value => do
    let name ← targetText target
    let text ← emit value 0
    return "(" ++ name ++ " := " ++ text ++ ")"
  | .binary op left right => do
    let leftText ← emit left op.precedence
    let rightText ← emit right (op.precedence + 1)
    return enclosed op.precedence least (leftText ++ " " ++ op.symbol ++ " " ++ rightText)
  | .negate operand => do
    let text ← emit operand negationPrecedence
    return enclosed negationPrecedence least ("-" ++ text)
  | .call callee argument => do
    let calleeText ← emit callee primaryPrecedence
    let text ← emit argument 0
    return calleeText ++ "(" ++ text ++ ")"
  | .other => .error (.unsupported t)
termination_by t.weight
decreasing_by
  all_goals
    have shrinks := t.form_weight_lt
    rw [_h] at shrinks
    simp only [Tree.Form.weight] at shrinks
    omega

/-- The text of a tree, read off its form. -/
theorem emit_form (t : Tree) (least : Nat) :
    emit t least = match t.form with
    | .incomplete => .error .incomplete
    | .atom text => atomText text
    | .sequence _ => .error .sequenceAsValue
    | .assign target value => do
      let name ← targetText target
      let text ← emit value 0
      return "(" ++ name ++ " := " ++ text ++ ")"
    | .binary op left right => do
      let leftText ← emit left op.precedence
      let rightText ← emit right (op.precedence + 1)
      return enclosed op.precedence least (leftText ++ " " ++ op.symbol ++ " " ++ rightText)
    | .negate operand => do
      let text ← emit operand negationPrecedence
      return enclosed negationPrecedence least ("-" ++ text)
    | .call callee argument => do
      let calleeText ← emit callee primaryPrecedence
      let text ← emit argument 0
      return calleeText ++ "(" ++ text ++ ")"
    | .other => .error (.unsupported t) := by
  rw [emit]
  split <;> rename_i heq <;> simp only [heq]

/-- Nothing is enclosed that binds as tightly as numbers, names and calls, since no more than that is ever required. -/
theorem parenthesized_primary {least : Nat} (h : least ≤ primaryPrecedence) (text : String) :
    parenthesized 4 least text = text :=
  if_pos h

theorem emit_eq_emission {t : Tree} {least : Nat} (h : least ≤ primaryPrecedence) :
    emit t least = emission t least := by
  fun_induction emit t least with
  | case1 t least hform => rw [emission_form, hform]
  | case2 t least text hform =>
    rw [emission_form, hform]
    simp only [parenthesized_primary h, bind_pure]
  | case3 t least members hform => rw [emission_form, hform]
  | case4 t least target value hform ih =>
    rw [emission_form, hform]
    simp only [parenthesized_primary h, targetText_eq, ih (Nat.zero_le _)]
  | case5 t least op left right hform ihleft ihright =>
    rw [emission_form, hform, ihleft (by cases op <;> decide), ihright (by cases op <;> decide)]
    simp only [parenthesized_eq]
  | case6 t least operand hform ih =>
    rw [emission_form, hform, ih (by decide)]
    simp only [parenthesized_eq]
    rfl
  | case7 t least callee argument hform ihcallee ihargument =>
    rw [emission_form, hform, ihcallee (Nat.le_refl _), ihargument (Nat.zero_le _)]
    simp only [parenthesized_primary h]
    rfl
  | case8 t least hform => rw [emission_form, hform]

/-- The text of an expression is that of the recursion on the forms. -/
theorem expression_eq_emit (t : Tree) : expression t = emit t 0 := by
  rw [expression, loop_eq_emission, emit_eq_emission (Nat.zero_le _)]

/-- A statement, read off the form of its tree. -/
theorem statement_form (t : Tree) :
    statement t = match t.form with
    | .assign target value => do
      let name ← targetText target
      let text ← expression value
      return name ++ " = " ++ text
    | _ => expression t := by
  by_cases hassign : ∃ target value, t.form = .assign target value
  · obtain ⟨target, value, hform⟩ := hassign
    rw [hform, Tree.eq_of_form_assign hform]
    rfl
  · have hexpression : statement t = expression t := by
      unfold statement
      split
      · next tag target value =>
        refine if_neg fun htagged => hassign ⟨target, value, ?_⟩
        obtain ⟨rest, heq⟩ := Tree.eq_of_isTagged htagged
        rw [heq, List.cons.inj (Tree.node.inj heq) |>.2.symm]
        rfl
      · rfl
    rw [hexpression]
    cases hform : t.form with
    | assign target value => exact absurd ⟨target, value, hform⟩ hassign
    | _ => rfl

end Precedence.Script
