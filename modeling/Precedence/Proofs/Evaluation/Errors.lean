import Precedence.Proofs.Evaluation.Statements

/-!
# Errors of evaluations

An evaluation ends in an error about values, or at a node that is itself to blame.  So if the nodes of a tree are known,
the errors of its evaluation are: what can be said of a node and of its operands (`Confines`) bounds the errors of the
recursion on the tree, and of a run of all statements (`FailsOnly.bigStep`, `Confines.run`).
-/

namespace Precedence

/-- If the outcome is an error, it is an allowed one. -/
def FailsOnly (allowed : EvalError → Prop) (outcome : Outcome) : Prop :=
  ∀ error, outcome.1 = .error error → allowed error

namespace FailsOnly

variable {allowed : EvalError → Prop}

theorem ok (value : Value) (memory : Memory) : FailsOnly allowed (.ok value, memory) := by
  intro error h
  cases h

theorem error {error : EvalError} (h : allowed error) (memory : Memory) :
    FailsOnly allowed (.error error, memory) := by
  intro other hother
  cases hother
  exact h

theorem andThen {outcome : Outcome} {next : Value → Memory → Outcome} (h : FailsOnly allowed outcome)
    (hnext : ∀ value memory, FailsOnly allowed (next value memory)) : FailsOnly allowed (outcome.andThen next) := by
  rcases outcome with ⟨error | value, memory⟩
  · exact .error (h error rfl) memory
  · exact hnext value memory

theorem bigSteps {ts : List Tree} (h : ∀ t ∈ ts, ∀ memory, FailsOnly allowed (t.bigStep memory)) (value : Value)
    (memory : Memory) : FailsOnly allowed (Tree.bigSteps value ts memory) := by
  induction ts generalizing value memory with
  | nil => exact .ok value memory
  | cons t ts ih =>
    obtain ⟨ht, hts⟩ := List.forall_mem_cons.mp h
    exact (ht memory).andThen fun value memory => ih hts value memory

theorem reported [Runtime] {outcome : Outcome} (h : FailsOnly allowed outcome)
    (hreported : ∀ error, allowed error → allowed error.reported) : FailsOnly allowed outcome.reported := by
  rcases outcome with ⟨error | value, memory⟩
  · exact .error (hreported error (h error rfl)) memory
  · exact .ok value memory

end FailsOnly

/-- What there is to blame at a tree of this form is allowed, and the trees that are evaluated with it are good. -/
def Tree.Form.Blames (allowed : EvalError → Prop) (good : Tree → Prop) (t : Tree) : Tree.Form → Prop
  | incomplete => allowed .incomplete
  | atom _ => True
  | sequence members => ∀ s ∈ members, good s
  | assign target value => (target.targetName? = none → allowed (.badTarget target)) ∧ good value
  | binary _ left right | call left right => good left ∧ good right
  | negate operand => good operand
  | other => allowed (.meaningless t)

namespace FailsOnly

variable {allowed : EvalError → Prop}

theorem callOutcome (hplain : ∀ error : EvalError, error.IsPlain → allowed error) (callee argument : Value)
    (memory : Memory) : FailsOnly allowed (callOutcome callee argument memory) := by
  unfold Precedence.callOutcome
  split
  · exact .ok _ _
  · next callee _ =>
    refine .error (hplain _ ?_) memory
    split
    · trivial
    · next error htext => exact isPlain_of_text htext

/-- The recursion on a good tree ends in allowed errors only, if those about values are allowed and what there is to
blame at a good tree is, by induction on its operands. -/
theorem bigStep {good : Tree → Prop} (hplain : ∀ error : EvalError, error.IsPlain → allowed error)
    (hblame : ∀ t, good t → t.form.Blames allowed good t) {t : Tree} (h : good t) (memory : Memory) :
    FailsOnly allowed (t.bigStep memory) := by
  induction t using Tree.operands_induction generalizing memory with
  | step t ih =>
    have hblames := hblame t h
    rw [bigStep_form]
    cases hform : t.form with
    | incomplete =>
      rw [hform] at hblames
      have hincomplete : allowed .incomplete := hblames
      exact .error hincomplete memory
    | atom text => exact fun error herror => hplain error (isPlain_of_lookup herror)
    | sequence members =>
      rw [hform] at hblames ih
      exact .bigSteps (fun s hs memory => ih s hs (hblames s hs) memory) .none memory
    | assign target value =>
      rw [hform] at hblames ih
      dsimp only
      cases hname : target.targetName? with
      | none => exact .error (hblames.1 hname) memory
      | some name =>
        exact (ih value (by simp [Tree.Form.operands, hname]) hblames.2 memory).andThen fun _ _ => .ok _ _
    | binary op left right =>
      rw [hform] at hblames ih
      refine (ih left (by simp [Tree.Form.operands]) hblames.1 memory).andThen fun a memory => ?_
      refine (ih right (by simp [Tree.Form.operands]) hblames.2 memory).andThen fun b memory => ?_
      exact fun error herror => hplain error (isPlain_of_apply herror)
    | negate operand =>
      rw [hform] at hblames ih
      refine (ih operand (by simp [Tree.Form.operands]) hblames memory).andThen fun value memory => ?_
      exact fun error herror => hplain error (isPlain_of_negate herror)
    | call callee argument =>
      rw [hform] at hblames ih
      refine (ih callee (by simp [Tree.Form.operands]) hblames.1 memory).andThen fun f memory => ?_
      refine (ih argument (by simp [Tree.Form.operands]) hblames.2 memory).andThen fun a memory => ?_
      exact .callOutcome hplain f a memory
    | other =>
      rw [hform] at hblames
      have hmeaningless : allowed (.meaningless t) := hblames
      exact .error hmeaningless memory

end FailsOnly

/-- Errors about values are allowed, and so is what there is to blame at a good tree, whose operands are good again. -/
structure Confines [Runtime] (good : Tree → Prop) (allowed : EvalError → Prop) : Prop where
  plain : ∀ error : EvalError, error.IsPlain → allowed error
  reported : ∀ error : EvalError, allowed error → allowed error.reported
  blames : ∀ t, good t → t.form.Blames allowed good t

/-- A run ends in no other errors if the statements of the tree are good. -/
theorem Confines.run [Runtime] {good : Tree → Prop} {allowed : EvalError → Prop} (confines : Confines good allowed)
    {t : Tree} (h : ∀ s ∈ t.statements, good s) (memory : Memory) : FailsOnly allowed (t.run memory) := by
  rw [Tree.run_eq]
  have hbigStep : ∀ s ∈ t.statements, ∀ memory, FailsOnly allowed (s.bigStep memory) :=
    fun s hs => .bigStep confines.plain confines.blames (h s hs)
  exact ((FailsOnly.bigSteps hbigStep .none memory).reported confines.reported).andThen fun _ _ => .ok _ _

end Precedence
