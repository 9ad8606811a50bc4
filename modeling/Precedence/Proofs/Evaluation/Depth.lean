import Precedence.Proofs.Evaluation.Errors

/-!
# Evaluation of deep trees

Trees are evaluated without regard to their depth, except where an error is about a node: the node is shown in a
message, and one that is too deep cannot be.  So the evaluation of a tree, and a run of its statements, fail for a depth
exactly if the recursion on the tree ends in an error about such a node (`fails_for_depth_iff`).  A chain of assignments
ends in one if it is long enough (`value_assignments`).
-/

namespace Precedence

/-- The node that an error is about. -/
def EvalError.blamed? : EvalError → Option Tree
  | meaningless t | badTarget t => some t
  | _ => none

/-- The error is about a node in the tree, or about no node; it is not about a depth. -/
def EvalError.IsWithin (t : Tree) (error : EvalError) : Prop :=
  error ≠ .nestedTooDeeply ∧ ∀ u, error.blamed? = some u → u.OccursIn t

/-- The outcome is an error about a node in the tree that is too deep to be shown. -/
def Outcome.IsUnshowable [Runtime] (t : Tree) (outcome : Outcome) : Prop :=
  ∃ error u, outcome.1 = .error error ∧ error.blamed? = some u ∧ u.OccursIn t ∧ Runtime.treeDepth ≤ u.depth

namespace EvalError

theorem IsPlain.isWithin {error : EvalError} (h : error.IsPlain) (t : Tree) : error.IsWithin t := by
  cases error with
  | incomplete | meaningless | badTarget | nestedTooDeeply => exact h.elim
  | _ => exact ⟨nofun, nofun⟩

end EvalError

/-- What there is to blame at a node of a tree is in the tree. -/
theorem Tree.OccursIn.blames {s t : Tree} (hs : s.OccursIn t) :
    s.form.Blames (EvalError.IsWithin t) (·.OccursIn t) s := by
  have hoperands : ∀ u ∈ s.form.operands, u.OccursIn t := fun u hu => (Tree.occursIn_of_mem_operands hu).trans hs
  cases hform : s.form with
  | incomplete => exact ⟨by rintro ⟨⟩, by rintro u ⟨⟩⟩
  | atom text => trivial
  | sequence members =>
    rw [hform] at hoperands
    exact hoperands
  | assign target value =>
    obtain rfl := Tree.eq_of_form_assign hform
    refine ⟨fun _ => ⟨by rintro ⟨⟩, ?_⟩, (Tree.occursIn_node (by simp)).trans hs⟩
    rintro u ⟨⟩
    exact (Tree.occursIn_node (by simp)).trans hs
  | binary op left right =>
    rw [hform] at hoperands
    exact ⟨hoperands left (by simp [Tree.Form.operands]), hoperands right (by simp [Tree.Form.operands])⟩
  | negate operand =>
    rw [hform] at hoperands
    exact hoperands operand (by simp [Tree.Form.operands])
  | call callee argument =>
    rw [hform] at hoperands
    exact ⟨hoperands callee (by simp [Tree.Form.operands]), hoperands argument (by simp [Tree.Form.operands])⟩
  | other =>
    refine ⟨by rintro ⟨⟩, ?_⟩
    rintro u ⟨⟩
    exact hs

/-- The recursion blames only nodes in the tree, and never a depth. -/
theorem FailsOnly.bigStep_isWithin {s t : Tree} (h : s.OccursIn t) (memory : Memory) :
    FailsOnly (EvalError.IsWithin t) (s.bigStep memory) := by
  have hblame : ∀ u : Tree, u.OccursIn t → u.form.Blames (EvalError.IsWithin t) (·.OccursIn t) u :=
    fun _ hu => hu.blames
  exact .bigStep (fun _ hplain => hplain.isWithin t) hblame h memory

namespace Tree

/-- A run by recursion on the statements. -/
def bigRun (t : Tree) (memory : Memory) : Outcome :=
  (bigSteps .none t.statements memory).andThen fun value memory => (.ok (resultOf t.statements value), memory)

theorem run_eq_reported [Runtime] (t : Tree) (memory : Memory) : t.run memory = (t.bigRun memory).reported := by
  rw [run_eq, bigRun]
  rcases bigSteps .none t.statements memory with ⟨error | value, after⟩ <;> rfl

theorem bigRun_isWithin (t : Tree) (memory : Memory) : FailsOnly (EvalError.IsWithin t) (t.bigRun memory) := by
  have hsteps : FailsOnly (EvalError.IsWithin t) (bigSteps .none t.statements memory) :=
    .bigSteps (fun s hs => .bigStep_isWithin (occursIn_of_mem_statements hs)) .none memory
  exact hsteps.andThen fun _ _ => .ok _ _

end Tree

section

variable [Runtime]

/-- An error is replaced exactly if it is about a node that is too deep to be shown. -/
theorem EvalError.reported_cases (error : EvalError) :
    (∃ u, error.blamed? = some u ∧ Runtime.treeDepth ≤ u.depth) ∧ error.reported = .nestedTooDeeply ∨
      (∀ u, error.blamed? = some u → u.depth < Runtime.treeDepth) ∧ error.reported = error := by
  cases error with
  | meaningless t | badTarget t =>
    by_cases h : t.depth < Runtime.treeDepth
    · exact .inr ⟨by rintro u ⟨⟩; exact h, by simp only [reported, about, h, if_true]⟩
    · exact .inl ⟨⟨t, rfl, Nat.not_lt.mp h⟩, by simp only [reported, about, h, if_false]⟩
  | _ => exact .inr ⟨by rintro u ⟨⟩, rfl⟩

/-- An outcome is reported as one about a depth exactly if it is about a node that is too deep to be shown, and else it
is reported as it is. -/
theorem FailsOnly.reported_iff {t : Tree} {outcome : Outcome} (h : FailsOnly (EvalError.IsWithin t) outcome) :
    (outcome.reported.1 = .error .nestedTooDeeply ↔ outcome.IsUnshowable t) ∧
      (¬ outcome.IsUnshowable t → outcome.reported = outcome) := by
  rcases outcome with ⟨error | value, memory⟩
  · obtain ⟨hdepth, hwithin⟩ := h error rfl
    rcases error.reported_cases with ⟨⟨u, hblamed, hdeep⟩, hreported⟩ | ⟨hshallow, hreported⟩
    · have hunshowable : Outcome.IsUnshowable t (.error error, memory) :=
        ⟨error, u, rfl, hblamed, hwithin u hblamed, hdeep⟩
      refine ⟨iff_of_true ?_ hunshowable, fun hnot => absurd hunshowable hnot⟩
      simp only [Outcome.reported, hreported]
    · have hshown : ¬ Outcome.IsUnshowable t (.error error, memory) := by
        rintro ⟨other, u, ⟨⟩, hblamed, -, hdeep⟩
        exact absurd (hshallow u hblamed) (Nat.not_lt.mpr hdeep)
      refine ⟨iff_of_false ?_ hshown, fun _ => ?_⟩
      · simpa only [Outcome.reported, hreported, Except.error.injEq] using hdepth
      · simp only [Outcome.reported, hreported]
  · refine ⟨iff_of_false (by rintro ⟨⟩) ?_, fun _ => rfl⟩
    rintro ⟨error, u, herror, -⟩
    cases herror

namespace Tree

/-- The evaluation of a tree, and a run of its statements, are the recursion on it, whatever its depth is, unless that
ends in an error about a node in the tree that is too deep to be shown.  Exactly then they fail for the depth. -/
theorem fails_for_depth_iff (t : Tree) (memory : Memory) :
    (((t.value memory).1 = .error .nestedTooDeeply ↔ (t.bigStep memory).IsUnshowable t) ∧
        (¬ (t.bigStep memory).IsUnshowable t → t.value memory = t.bigStep memory)) ∧
      ((t.run memory).1 = .error .nestedTooDeeply ↔ (t.bigRun memory).IsUnshowable t) ∧
        (¬ (t.bigRun memory).IsUnshowable t → t.run memory = t.bigRun memory) := by
  rw [value_eq_reported, run_eq_reported]
  exact ⟨(FailsOnly.bigStep_isWithin (.refl t) memory).reported_iff, (t.bigRun_isWithin memory).reported_iff⟩

end Tree

end

namespace Tree

/-! ### Chains of assignments -/

/-- The tree of `x=1=…=1`, with so many assignments. -/
def assignments : Nat → Tree
  | 0 => atom "x"
  | count + 1 => node [atom assignLabel, assignments count, atom "1"]

theorem depth_assignments (count : Nat) : (assignments count).depth = count := by
  induction count with
  | zero => rfl
  | succ count ih => simp [assignments, depth, depths, ih]

theorem targetName?_assignments (count : Nat) : (assignments (count + 1)).targetName? = none := rfl

/-- An assignment to an assignment has no value. -/
theorem bigStep_assignments (count : Nat) (memory : Memory) :
    (assignments (count + 2)).bigStep memory = (.error (.badTarget (assignments (count + 1))), memory) := by
  have hform : (assignments (count + 2)).form = .assign (assignments (count + 1)) (atom "1") := by
    simp [assignments, form, taggedForm, assignLabel, sequenceLabel]
  rw [bigStep_form, hform]
  simp only [targetName?_assignments]

/-- A chain of assignments cannot be evaluated, and if it is long this is not even said. -/
theorem value_assignments [Runtime] (count : Nat) (h : Runtime.treeDepth ≤ count + 1) (memory : Memory) :
    (assignments (count + 2)).value memory = (.error .nestedTooDeeply, memory) ∧
      (assignments (count + 2)).run memory = (.error .nestedTooDeeply, memory) := by
  have hreported : (EvalError.badTarget (assignments (count + 1))).reported = .nestedTooDeeply := by
    simp only [EvalError.reported, EvalError.about, depth_assignments, Nat.not_lt.mpr h, if_false]
  have hstatements : (assignments (count + 2)).statements = [assignments (count + 2)] :=
    statements_of_no_sequence (sequenceMembers?_node (by decide) _)
  constructor
  · rw [value_eq_reported, bigStep_assignments]
    simp only [Outcome.reported, hreported]
  · rw [run_eq_reported, bigRun, hstatements, bigSteps_singleton, bigStep_assignments]
    simp only [Outcome.andThen, Outcome.reported, hreported]

theorem fails_for_depth_assignments :
    ((assignments 3000).value .empty).1 = .error .nestedTooDeeply ∧
      ((assignments 3000).run .empty).1 = .error .nestedTooDeeply := by
  obtain ⟨hvalue, hrun⟩ := value_assignments 2998 (by decide) .empty
  exact ⟨congrArg Prod.fst hvalue, congrArg Prod.fst hrun⟩

end Tree

end Precedence
