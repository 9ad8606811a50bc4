import Precedence.Evaluation.Machine
import Precedence.Proofs.Tree.Form
import Precedence.Proofs.Tree.Statements

/-!
# Trees inside of trees

A tree is inside of another one if it is a member of it, or of a tree inside of it.  The trees that are evaluated for a
tree, its operands, occur in it (`occursIn_of_mem_operands`), and so do its statements (`occursIn_of_mem_statements`).
What is true of a tree if it is true of its operands is true of all trees (`operands_induction`).
-/

namespace Precedence.Tree

/-- The first tree is inside of the second one. -/
inductive Below : Tree → Tree → Prop
  | member {t : Tree} {members : List Tree} (mem : t ∈ members) : Below t (node members)
  | deeper {s t : Tree} {members : List Tree} (below : Below s t) (mem : t ∈ members) : Below s (node members)

theorem not_below_atom {u : Tree} {text : String} : ¬ u.Below (atom text) := nofun

theorem below_node_iff {u : Tree} {members : List Tree} :
    u.Below (node members) ↔ ∃ t ∈ members, u = t ∨ u.Below t := by
  constructor
  · rintro (⟨mem⟩ | ⟨below, mem⟩)
    · exact ⟨u, mem, .inl rfl⟩
    · exact ⟨_, mem, .inr below⟩
  · rintro ⟨t, mem, rfl | below⟩
    · exact .member mem
    · exact .deeper below mem

/-- What a property of a tree and of all trees inside of it says about a member. -/
theorem forall_of_mem {P : Tree → Prop} {t : Tree} {members : List Tree}
    (h : ∀ u, u = node members ∨ u.Below (node members) → P u) (mem : t ∈ members) : ∀ u, u = t ∨ u.Below t → P u :=
  fun u hu => h u (.inr (below_node_iff.mpr ⟨t, mem, hu⟩))

theorem Below.trans {s t u : Tree} (hst : s.Below t) (htu : t.Below u) : s.Below u := by
  induction htu with
  | member mem => exact .deeper hst mem
  | deeper _ mem ih => exact .deeper ih mem

/-- The first tree is the second one or inside of it. -/
def OccursIn (s t : Tree) : Prop := s = t ∨ s.Below t

theorem OccursIn.refl (t : Tree) : t.OccursIn t := .inl rfl

theorem OccursIn.trans {s t u : Tree} (hst : s.OccursIn t) (htu : t.OccursIn u) : s.OccursIn u := by
  rcases hst with rfl | hst
  · exact htu
  · rcases htu with rfl | htu
    · exact .inr hst
    · exact .inr (hst.trans htu)

theorem occursIn_node {t : Tree} {members : List Tree} (mem : t ∈ members) : t.OccursIn (node members) :=
  .inr (.member mem)

/-- The statements of a tree occur in it. -/
theorem occursIn_of_mem_statements {s t : Tree} (h : s ∈ t.statements) : s.OccursIn t := by
  refine forall_statements (p := fun s => s.OccursIn t) (.refl t) ?_ s h
  exact fun members hsequence u mem => (occursIn_node (List.mem_cons_of_mem _ mem)).trans hsequence

/-! ### Operands -/

/-- The trees that are evaluated for a tree of this form, one after the other. -/
def Form.operands : Form → List Tree
  | sequence members => members
  | assign target value => if target.targetName?.isSome then [value] else []
  | binary _ left right => [left, right]
  | negate operand => [operand]
  | call callee argument => [callee, argument]
  | incomplete | atom _ | other => []

theorem occursIn_of_mem_operands {s t : Tree} (h : s ∈ t.form.operands) : s.OccursIn t := by
  have hform := t.hasForm
  generalize t.form = form at hform h
  cases hform with
  | incomplete | atom | other => cases h
  | sequence => exact occursIn_node (List.mem_cons_of_mem _ h)
  | assign target value =>
    simp only [Form.operands] at h
    split at h
    · exact occursIn_node (List.mem_cons_of_mem _ (List.mem_cons_of_mem _ h))
    · cases h
  | binary | negate => exact occursIn_node (List.mem_cons_of_mem _ h)
  | call => exact occursIn_node h

/-- The operands of a tree weigh less than the tree. -/
theorem weights_operands_lt (t : Tree) : weights t.form.operands < t.weight := by
  have hle : weights t.form.operands ≤ t.form.weight := by
    cases t.form with
    | assign target value =>
      simp only [Form.operands, Form.weight]
      split
      · simp only [weights]
        omega
      · exact Nat.zero_le _
    | _ => simp only [Form.operands, Form.weight, weights]; omega
  exact Nat.lt_of_le_of_lt hle t.form_weight_lt

@[elab_as_elim]
theorem weight_induction {p : Tree → Prop} (step : ∀ t : Tree, (∀ s : Tree, s.weight < t.weight → p s) → p t)
    (t : Tree) : p t :=
  (measure weight).wf.induction t step

@[elab_as_elim]
theorem operands_induction {p : Tree → Prop} (step : ∀ t : Tree, (∀ s ∈ t.form.operands, p s) → p t) (t : Tree) :
    p t := by
  induction t using weight_induction with
  | step t ih => exact step t fun s hs => ih s (Nat.lt_trans (weight_lt_weights hs) t.weights_operands_lt)

end Precedence.Tree
