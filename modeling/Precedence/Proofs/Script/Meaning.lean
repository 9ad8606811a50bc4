import Precedence.Proofs.Evaluation.Errors
import Precedence.Proofs.Script.Language
import Precedence.Proofs.Script.RoundTrip

/-!
# Trees with a script mean something

To write a script and to run a program are two walks over a tree, and each of them decides for itself what the nodes
mean.  They agree: where a script has been written, each node that a run comes to has a meaning, and each assignment is
to a name (`Compiled.form`).  So a run of the program never ends at a node that is to blame (`run_of_ofTree`).
-/

namespace Precedence.Script

/-- The tree has a text as an operand. -/
def Compiled (t : Tree) : Prop := ∃ least text, emit t least = .ok text

theorem compiled_of_emit {t : Tree} {least : Nat} {text : String} (h : emit t least = .ok text) : Compiled t :=
  ⟨least, text, h⟩

/-- What is written as a target can be assigned to. -/
theorem targetName?_ne_none {t : Tree} {name : String} (h : targetText t = .ok name) : t.targetName? ≠ none := by
  unfold targetText at h
  split at h
  · next text =>
    split at h
    · cases h
    · next hliteral => simp [Tree.targetName?, hliteral]
  · cases h

/-- There is nothing to blame at a tree with a text, and its operands have texts. -/
theorem Compiled.form {t : Tree} (h : Compiled t) : t.form.Blames EvalError.IsPlain Compiled t := by
  obtain ⟨least, text, h⟩ := h
  rw [emit_form] at h
  generalize t.form = form at h ⊢
  cases form with
  | incomplete => cases h
  | atom => trivial
  | sequence => cases h
  | assign target value =>
    obtain ⟨name, hname, h⟩ := exists_of_bind h
    obtain ⟨right, hright, -⟩ := exists_of_bind h
    exact ⟨fun hnone => absurd hnone (targetName?_ne_none hname), compiled_of_emit hright⟩
  | binary op left right =>
    obtain ⟨leftText, hleft, h⟩ := exists_of_bind h
    obtain ⟨rightText, hright, -⟩ := exists_of_bind h
    exact ⟨compiled_of_emit hleft, compiled_of_emit hright⟩
  | negate operand =>
    obtain ⟨inner, hinner, -⟩ := exists_of_bind h
    exact compiled_of_emit hinner
  | call callee argument =>
    obtain ⟨calleeText, hcallee, h⟩ := exists_of_bind h
    obtain ⟨inner, hinner, -⟩ := exists_of_bind h
    exact ⟨compiled_of_emit hcallee, compiled_of_emit hinner⟩
  | other => cases h

theorem confines_compiled [Runtime] : Confines Compiled EvalError.IsPlain where
  plain := fun _ h => h
  reported := fun _ h => h.reported_eq.symm ▸ h
  blames := fun _ h => h.form

/-- A statement with a text has a text as an operand as well. -/
theorem compiled_of_statement {s : Tree} {text : String} (h : statement s = .ok text) : Compiled s := by
  rw [statement_form] at h
  split at h
  · next target value hform =>
    rw [expression_eq_emit] at h
    obtain ⟨name, hname, h⟩ := exists_of_bind h
    obtain ⟨right, hright, -⟩ := exists_of_bind h
    refine ⟨0, "(" ++ name ++ " := " ++ right ++ ")", ?_⟩
    rw [emit_form, hform]
    simp only [hname, hright]
    rfl
  · rw [expression_eq_emit] at h
    exact compiled_of_emit h

/-- If a tree has a script, its statements have texts. -/
theorem compiled_of_ofTree {t : Tree} {text : String} (h : ofTree t = .ok text) : ∀ s ∈ t.statements, Compiled s := by
  intro s hs
  rcases ofTree_language t with ⟨texts, -, hmap, -⟩ | ⟨_, _, _, error, -, -, -, hfailed⟩
  · have hmem : statement s ∈ texts.map .ok := hmap ▸ List.mem_map_of_mem hs
    obtain ⟨line, -, hline⟩ := List.mem_map.mp hmem
    exact compiled_of_statement hline.symm
  · cases hfailed.symm.trans h

/-- A run of a tree that has a script, whatever the variables are, meets no incomplete expression, no node without a
meaning and no assignment to anything but a name, and no node that is too deep to be shown in an error. -/
theorem run_of_ofTree [Runtime] {t : Tree} {text : String} (compiled : ofTree t = .ok text) (memory : Memory) :
    (t.run memory).1 ≠ .error .incomplete ∧ (∀ u, (t.run memory).1 ≠ .error (.meaningless u)) ∧
      (∀ u, (t.run memory).1 ≠ .error (.badTarget u)) ∧ (t.run memory).1 ≠ .error .nestedTooDeeply := by
  have hplain := confines_compiled.run (compiled_of_ofTree compiled) memory
  exact ⟨fun h => hplain _ h, fun _ h => hplain _ h, fun _ h => hplain _ h, fun h => hplain _ h⟩

/-- The pair that is tagged like an assignment is a call. -/
theorem run_of_ofTree_taggedPair :
    let t := Tree.node [.atom "assign", .node [.atom "-", .atom "y"]]
    ofTree t = .ok "assign(-y)" ∧ ∀ memory,
      (t.run memory).1 ≠ .error .incomplete ∧ (∀ u, (t.run memory).1 ≠ .error (.meaningless u)) ∧
        (∀ u, (t.run memory).1 ≠ .error (.badTarget u)) ∧ (t.run memory).1 ≠ .error .nestedTooDeeply := by
  intro t
  have hname : ∀ least, emit (.atom "y") least = .ok "y" := by
    intro least
    rw [emit_form]
    rfl
  have hcallee : emit (.atom "assign") primaryPrecedence = .ok "assign" := by
    rw [emit_form]
    rfl
  have hnegation : emit (.node [.atom Tree.negateLabel, .atom "y"]) 0 = .ok "-y" := by
    rw [emit_form, form_negate]
    simp only [hname]
    rfl
  have hcall : emit t 0 = .ok "assign(-y)" := by
    have hform : t.form = .call (.atom "assign") (.node [.atom Tree.negateLabel, .atom "y"]) := rfl
    rw [emit_form, hform]
    simp only [hcallee]
    change (do
      let text ← emit (.node [.atom Tree.negateLabel, .atom "y"]) 0
      return "assign" ++ "(" ++ text ++ ")") = _
    rw [hnegation]
    rfl
  have hstatement : statement t = .ok "assign(-y)" := by
    have hnone : ¬ t.IsAssignment := by
      rintro ⟨target, value, h⟩
      simp [t] at h
    rw [statement_eq_expression hnone, expression_eq_emit, hcall]
  have compiled : ofTree t = .ok "assign(-y)" := ofTree_of_statement hstatement
  exact ⟨compiled, run_of_ofTree compiled⟩

end Precedence.Script
