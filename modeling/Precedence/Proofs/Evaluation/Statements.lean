import Precedence.Proofs.Evaluation.BigStep
import Precedence.Proofs.Tree.Below

/-!
# Runs and values

A tree can be run, one statement after the other, or it can be evaluated as an expression, in which a sequence has the
value of its last member.  To evaluate trees one after the other is to evaluate their statements
(`bigSteps_statementsOf`), if no sequence among them is empty, and a run does just that, up to the result of the last
statement (`runStatements_eq`).  So both do the same (`run_eq_value_of_last`), except that a run has no result where the
last statement is an assignment.
-/

namespace Precedence

namespace Outcome

theorem andThen_assoc (outcome : Outcome) (next further : Value → Memory → Outcome) :
    (outcome.andThen next).andThen further =
      outcome.andThen fun value memory => (next value memory).andThen further := by
  rcases outcome with ⟨error | value, memory⟩ <;> rfl

theorem andThen_ok (outcome : Outcome) : (outcome.andThen fun value memory => (.ok value, memory)) = outcome := by
  rcases outcome with ⟨error | value, memory⟩ <;> rfl

end Outcome

namespace Tree

/-! ### Trees one after the other -/

theorem bigSteps_append (value : Value) (ts us : List Tree) (memory : Memory) :
    bigSteps value (ts ++ us) memory =
      (bigSteps value ts memory).andThen fun value memory => bigSteps value us memory := by
  induction ts generalizing value memory with
  | nil => rfl
  | cons t ts ih =>
    rw [List.cons_append, bigSteps, bigSteps, Outcome.andThen_assoc]
    congr 1
    funext value memory
    exact ih value memory

theorem bigSteps_singleton (value : Value) (t : Tree) (memory : Memory) :
    bigSteps value [t] memory = t.bigStep memory :=
  (t.bigStep memory).andThen_ok

/-- The value of trees does not depend on what was before them if there are any. -/
theorem bigSteps_of_ne_nil {ts : List Tree} (hne : ts ≠ []) (value other : Value) (memory : Memory) :
    bigSteps value ts memory = bigSteps other ts memory := by
  cases ts with
  | nil => exact (hne rfl).elim
  | cons t ts => rw [bigSteps, bigSteps]

theorem bigStep_sequence (members : List Tree) (memory : Memory) :
    (node (atom sequenceLabel :: members)).bigStep memory = bigSteps .none members memory := by
  have hform : (node (atom sequenceLabel :: members)).form = .sequence members := by simp [form, taggedForm]
  rw [bigStep_form, hform]

/-- Every sequence in the tree has a member. -/
def NoEmptySequence (t : Tree) : Prop := ∀ u : Tree, u.OccursIn t → u ≠ node [atom sequenceLabel]

theorem NoEmptySequence.members_ne_nil {members : List Tree}
    (h : (node (atom sequenceLabel :: members)).NoEmptySequence) : members ≠ [] := by
  rintro rfl
  exact h _ (.refl _) rfl

theorem NoEmptySequence.of_mem {t : Tree} {members : List Tree} (h : (node members).NoEmptySequence)
    (mem : t ∈ members) : t.NoEmptySequence :=
  fun u hu => h u (hu.trans (occursIn_node mem))

/-- What is evaluated for trees is what is evaluated for their statements. -/
theorem bigSteps_statementsOf {ts : List Tree} (h : ∀ t ∈ ts, t.NoEmptySequence) (value : Value) (memory : Memory) :
    bigSteps value (statementsOf ts) memory = bigSteps value ts memory := by
  fun_induction statementsOf ts generalizing value memory with
  | case1 => rfl
  | case2 t pending members hmembers ih =>
    obtain ⟨ht, hpending⟩ := List.forall_mem_cons.mp h
    rw [eq_of_sequenceMembers? hmembers] at ht ⊢
    have hall : ∀ s ∈ members ++ pending, s.NoEmptySequence :=
      List.forall_mem_append.mpr ⟨fun s mem => ht.of_mem (List.mem_cons_of_mem _ mem), hpending⟩
    -- a sequence with a member does not depend on the value from before it
    rw [ih hall, bigSteps_append, bigSteps, bigStep_sequence, bigSteps_of_ne_nil ht.members_ne_nil value .none]
  | case3 t pending _ ih =>
    rw [bigSteps, bigSteps]
    congr 1
    funext value memory
    exact ih (List.forall_mem_cons.mp h).2 value memory

theorem statementsOf_ne_nil {ts : List Tree} (h : ∀ t ∈ ts, t.NoEmptySequence) (hne : ts ≠ []) :
    statementsOf ts ≠ [] := by
  fun_induction statementsOf ts with
  | case1 => exact hne
  | case2 t pending members hmembers ih =>
    obtain ⟨ht, hpending⟩ := List.forall_mem_cons.mp h
    rw [eq_of_sequenceMembers? hmembers] at ht
    refine ih (List.forall_mem_append.mpr ⟨fun s mem => ht.of_mem (List.mem_cons_of_mem _ mem), hpending⟩) ?_
    exact List.append_ne_nil_of_left_ne_nil ht.members_ne_nil pending
  | case3 => exact List.cons_ne_nil _ _

/-! ### Runs -/

/-- The result of a run of statements, given the value of the last one: nothing if that is an assignment. -/
def resultOf (ts : List Tree) (value : Value) : Value :=
  match ts.getLast? with
  | some last => if last.isTagged assignLabel then .none else value
  | none => value

section

variable [Runtime]

/-- A run evaluates the statements one after the other. -/
theorem runStatements_eq (result : Value) (memory : Memory) (ts : List Tree) :
    runStatements result memory ts =
      (bigSteps result ts memory).reported.andThen fun value memory => (.ok (resultOf ts value), memory) := by
  induction ts generalizing result memory with
  | nil => rfl
  | cons t ts ih =>
    rw [runStatements, bigSteps, value_eq_reported]
    rcases t.bigStep memory with ⟨error | value, after⟩
    · rfl
    · cases ts with
      | nil => rfl
      | cons u us =>
        show runStatements _ after (u :: us) = (bigSteps value (u :: us) after).reported.andThen _
        rw [ih, bigSteps_of_ne_nil (List.cons_ne_nil u us) _ value]
        rfl

theorem run_eq (t : Tree) (memory : Memory) :
    t.run memory = (bigSteps .none t.statements memory).reported.andThen fun value memory =>
      (.ok (resultOf t.statements value), memory) :=
  runStatements_eq .none memory t.statements

/-- To run a tree is to evaluate it: the same values are echoed, the same variables are left behind, and the error is
the same if there is one.  The result of the run is the value, or nothing if the last statement is an assignment. -/
theorem run_eq_value_of_last {t : Tree} (h : t.NoEmptySequence) (memory : Memory) :
    ∃ last, t.statements.getLast? = some last ∧
      t.run memory = (t.value memory).andThen fun value memory =>
        (.ok (if last.isTagged assignLabel then .none else value), memory) := by
  have hall : ∀ s ∈ [t], s.NoEmptySequence := by simpa using h
  obtain ⟨last, hlast⟩ := Option.ne_none_iff_exists'.mp
    (mt List.getLast?_eq_none_iff.mp (statementsOf_ne_nil hall (List.cons_ne_nil t [])))
  have hsteps : bigSteps .none t.statements memory = t.bigStep memory := by
    rw [statements, bigSteps_statementsOf hall, bigSteps_singleton]
  refine ⟨last, hlast, ?_⟩
  rw [run_eq, hsteps, value_eq_reported]
  simp only [resultOf, statements, hlast]

end

/-- The tree of `x=2;(echo(x);y=x)`. -/
def nestedStatements : Tree :=
  node [atom "sequence", node [atom "assign", atom "x", atom "2"],
    node [atom "sequence", node [atom "echo", atom "x"], node [atom "assign", atom "y", atom "x"]]]

theorem run_eq_value_of_last_nestedStatements :
    let left : Memory := ⟨⟨[("x", .int 2), ("y", .int 2)]⟩, [.int 2]⟩
    nestedStatements.NoEmptySequence ∧ nestedStatements.value .empty = (.ok (.int 2), left) ∧
      nestedStatements.run .empty = (.ok .none, left) := by
  intro left
  have hnone : nestedStatements.NoEmptySequence := by
    intro u hu hempty
    subst hempty
    simp [OccursIn, nestedStatements, below_node_iff, not_below_atom] at hu
  have hvalue : nestedStatements.value .empty = (.ok (.int 2), left) := by
    rw [value_eq_reported]
    rfl
  obtain ⟨last, hlast, hrun⟩ := run_eq_value_of_last hnone .empty
  have hstatements : nestedStatements.statements.getLast? = some (node [atom "assign", atom "y", atom "x"]) := by
    simp [nestedStatements, statements, statementsOf, sequenceMembers?, sequenceLabel]
  cases hlast.symm.trans hstatements
  rw [hvalue] at hrun
  exact ⟨hnone, hvalue, hrun⟩

end Tree

end Precedence
