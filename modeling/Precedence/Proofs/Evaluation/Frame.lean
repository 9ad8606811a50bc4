import Precedence.Proofs.Evaluation.Statements

/-!
# What evaluation reads and writes

An evaluation reads the variables that are named in its tree, and no others: in two memories that agree on these names
it does the same (`bigStep_agree`).  And it writes by assignments alone.  `Visits` lists what is evaluated on the way,
so that a variable that has changed has the value of an assignment that has been visited and has been completed
(`accounted_bigSteps`).

Both are carried over to runs by `run_eq`, and put together in `run_frame`.
-/

namespace Precedence

/-! ### Reads -/

/-- The memories have the same values for the names, and the same values have been echoed. -/
structure Memory.Agree (names : String → Prop) (m n : Memory) : Prop where
  get? : ∀ name, names name → m.store.get? name = n.store.get? name
  echoed : m.echoed = n.echoed

/-- The outcomes have the same value or the same error, in memories that agree on the names. -/
structure Outcome.Agree (names : String → Prop) (outcome other : Outcome) : Prop where
  result : outcome.1 = other.1
  memory : outcome.2.Agree names other.2

section

variable {names : String → Prop} {m n : Memory}

theorem Memory.Agree.assign (h : m.Agree names n) (name : String) (value : Value) :
    (m.assign name value).Agree names (n.assign name value) := by
  refine ⟨fun other hother => ?_, h.echoed⟩
  show (m.store.set name value).get? other = (n.store.set name value).get? other
  rw [Store.get?_set, Store.get?_set, h.get? other hother]

theorem Memory.Agree.echo (h : m.Agree names n) (value : Value) : (m.echo value).Agree names (n.echo value) :=
  ⟨h.get?, congrArg (· ++ [value]) h.echoed⟩

theorem Memory.Agree.lookup (h : m.Agree names n) {text : String} (htext : names text) :
    m.lookup text = n.lookup text := by
  unfold Memory.lookup
  rw [h.get? text htext]

theorem Outcome.Agree.andThen {outcome other : Outcome} {next next' : Value → Memory → Outcome}
    (h : outcome.Agree names other)
    (hnext : ∀ value m n, m.Agree names n → (next value m).Agree names (next' value n)) :
    (outcome.andThen next).Agree names (other.andThen next') := by
  obtain ⟨result, memory⟩ := h
  rcases outcome with ⟨error | value, m⟩ <;> rcases other with ⟨error' | value', n⟩ <;> cases result
  · exact ⟨rfl, memory⟩
  · exact hnext value m n memory

theorem Outcome.Agree.reported [Runtime] {outcome other : Outcome} (h : outcome.Agree names other) :
    outcome.reported.Agree names other.reported := by
  obtain ⟨result, memory⟩ := h
  rcases outcome with ⟨error | value, m⟩ <;> rcases other with ⟨error' | value', n⟩ <;> cases result
  · exact ⟨rfl, memory⟩
  · exact ⟨rfl, memory⟩

theorem callOutcome_agree (h : m.Agree names n) (callee argument : Value) :
    (callOutcome callee argument m).Agree names (callOutcome callee argument n) := by
  cases callee with
  | echo => exact ⟨rfl, h.echo argument⟩
  | _ => exact ⟨rfl, h⟩

namespace Tree

theorem bigSteps_agree {ts : List Tree}
    (hts : ∀ t ∈ ts, ∀ m n : Memory, m.Agree names n → (t.bigStep m).Agree names (t.bigStep n)) (h : m.Agree names n)
    (value : Value) : (bigSteps value ts m).Agree names (bigSteps value ts n) := by
  induction ts generalizing value m n with
  | nil => exact ⟨rfl, h⟩
  | cons t ts ih =>
    obtain ⟨ht, hts⟩ := List.forall_mem_cons.mp hts
    exact (ht m n h).andThen fun value m n h => ih hts h value

/-- The tree evaluates alike in memories that agree on all names in it, by induction on its operands. -/
theorem bigStep_agree {t : Tree} (hnames : ∀ name, (atom name).OccursIn t → names name) (h : m.Agree names n) :
    (t.bigStep m).Agree names (t.bigStep n) := by
  induction t using operands_induction generalizing m n with
  | step t ih =>
    have hoperand : ∀ s ∈ t.form.operands, ∀ m n : Memory, m.Agree names n →
        (s.bigStep m).Agree names (s.bigStep n) := fun s hs m n h =>
      ih s hs (fun name hname => hnames name (hname.trans (occursIn_of_mem_operands hs))) h
    rw [bigStep_form, bigStep_form]
    cases hform : t.form with
    | incomplete | other => exact ⟨rfl, h⟩
    | atom text =>
      have htext : names text := hnames text (eq_atom_of_form hform ▸ .refl _)
      exact ⟨h.lookup htext, h⟩
    | sequence members =>
      rw [hform] at hoperand
      exact bigSteps_agree hoperand h .none
    | assign target value =>
      rw [hform] at hoperand
      dsimp only
      cases hname : target.targetName? with
      | none => exact ⟨rfl, h⟩
      | some name =>
        have hvalue := hoperand value (by simp [Form.operands, hname])
        exact (hvalue m n h).andThen fun value m n h => ⟨rfl, h.assign name value⟩
    | binary op left right =>
      rw [hform] at hoperand
      have hleft := hoperand left (by simp [Form.operands])
      have hright := hoperand right (by simp [Form.operands])
      refine (hleft m n h).andThen fun a m n h => ?_
      exact (hright m n h).andThen fun b m n h => ⟨rfl, h⟩
    | negate operand =>
      rw [hform] at hoperand
      have hoperand := hoperand operand (by simp [Form.operands])
      exact (hoperand m n h).andThen fun value m n h => ⟨rfl, h⟩
    | call callee argument =>
      rw [hform] at hoperand
      have hcallee := hoperand callee (by simp [Form.operands])
      have hargument := hoperand argument (by simp [Form.operands])
      refine (hcallee m n h).andThen fun f m n h => ?_
      exact (hargument m n h).andThen fun a m n h => callOutcome_agree h f a

end Tree

end

/-! ### Writes -/

namespace Tree

theorem eq_atom_of_targetName? {t : Tree} {name : String} (h : t.targetName? = some name) : t = atom name := by
  unfold targetName? at h
  split at h
  · split at h
    · cases h
    · cases h
      rfl
  · cases h

/-- Every way to go on leaves the same variables behind. -/
private theorem store_andThen_congr {outcome : Outcome} {next next' : Value → Memory → Outcome}
    (h : ∀ value memory, (next value memory).2.store = (next' value memory).2.store) :
    (outcome.andThen next).2.store = (outcome.andThen next').2.store := by
  rcases outcome with ⟨error | value, memory⟩
  · rfl
  · exact h value memory

private theorem store_callOutcome (callee argument : Value) (m : Memory) :
    (callOutcome callee argument m).2.store = m.store := by
  cases callee <;> rfl

/-- The variables that a tree leaves behind are those that its operands leave behind, and if it is an assignment that is
completed, then its name is set. -/
theorem store_bigStep (t : Tree) (m : Memory) :
    (t.bigStep m).2.store = (bigSteps .none t.form.operands m).2.store ∨
      ∃ name operand value, t = node [atom assignLabel, atom name, operand] ∧ (t.bigStep m).1 = .ok value ∧
        (t.bigStep m).2.store = (bigSteps .none t.form.operands m).2.store.set name value := by
  rw [bigStep_form]
  cases hform : t.form with
  | incomplete | other | atom | sequence => exact .inl rfl
  | assign target operand =>
    dsimp only
    cases hname : target.targetName? with
    | none =>
      rw [Form.operands, hname]
      exact .inl rfl
    | some name =>
      have htree : t = node [atom assignLabel, atom name, operand] := by
        rw [eq_of_form_assign hform, eq_atom_of_targetName? hname]
      simp only [Form.operands, hname, Option.isSome_some, if_true, bigSteps]
      rcases hvalue : operand.bigStep m with ⟨error | value, after⟩
      · exact .inl rfl
      · exact .inr ⟨name, operand, value, htree, rfl, rfl⟩
  | binary op left right =>
    exact .inl (store_andThen_congr fun a m => store_andThen_congr fun b m => rfl)
  | negate operand => exact .inl (store_andThen_congr fun value m => rfl)
  | call callee argument =>
    exact .inl (store_andThen_congr fun f m => store_andThen_congr fun a m => store_callOutcome f a m)

section

variable [Runtime]

/-- While the trees are evaluated from the first memory, one after the other, the tree is evaluated from the second
memory. -/
inductive Visits : List Tree → Memory → Tree → Memory → Prop
  | first {t : Tree} {ts : List Tree} {m : Memory} : Visits (t :: ts) m t m
  | operand {t s : Tree} {ts : List Tree} {m n : Memory} (inside : Visits t.form.operands m s n) :
      Visits (t :: ts) m s n
  | later {t s : Tree} {ts : List Tree} {m m' n : Memory} {value : Value} (done : t.value m = (.ok value, m'))
      (more : Visits ts m' s n) : Visits (t :: ts) m s n

theorem Visits.exists_occursIn {s : Tree} {ts : List Tree} {m n : Memory} (h : Visits ts m s n) :
    ∃ t ∈ ts, s.OccursIn t := by
  induction h with
  | first => exact ⟨_, List.mem_cons_self, .refl _⟩
  | operand _ ih =>
    obtain ⟨u, hu, hs⟩ := ih
    exact ⟨_, List.mem_cons_self, hs.trans (occursIn_of_mem_operands hu)⟩
  | later _ _ ih =>
    obtain ⟨u, hu, hs⟩ := ih
    exact ⟨u, List.mem_cons_of_mem _ hu, hs⟩

/-- While the trees are evaluated, an assignment of the value to the name is completed. -/
def Completes (ts : List Tree) (m : Memory) (name : String) (value : Value) : Prop :=
  ∃ operand before after, Visits ts m (node [atom assignLabel, atom name, operand]) before ∧
    (node [atom assignLabel, atom name, operand]).value before = (.ok value, after)

theorem Completes.operand {t : Tree} {ts : List Tree} {m : Memory} {name : String} {value : Value}
    (h : Completes t.form.operands m name value) : Completes (t :: ts) m name value := by
  obtain ⟨operand, before, after, hvisits, hdone⟩ := h
  exact ⟨operand, before, after, .operand hvisits, hdone⟩

theorem Completes.later {t : Tree} {ts : List Tree} {m m' : Memory} {name : String} {value first : Value}
    (done : t.value m = (.ok first, m')) (h : Completes ts m' name value) : Completes (t :: ts) m name value := by
  obtain ⟨operand, before, after, hvisits, hdone⟩ := h
  exact ⟨operand, before, after, .later done hvisits, hdone⟩

/-- A completed assignment is inside of one of the trees, and its target is no number. -/
theorem Completes.exists_occursIn {ts : List Tree} {m : Memory} {name : String} {value : Value}
    (h : Completes ts m name value) :
    ¬ isIntegerLiteral name ∧ ∃ operand, ∃ t ∈ ts, (node [atom assignLabel, atom name, operand]).OccursIn t := by
  obtain ⟨operand, before, after, hvisits, hdone⟩ := h
  refine ⟨fun hliteral => ?_, operand, hvisits.exists_occursIn⟩
  have hform : (node [atom assignLabel, atom name, operand]).form = .assign (atom name) operand := by
    simp [form, taggedForm, assignLabel, sequenceLabel]
  rw [value_eq_reported, bigStep_form, hform] at hdone
  simp [targetName?, hliteral, Outcome.reported] at hdone

/-- The value of the name in the second memory is the one in the first memory, or that of an assignment that is
completed while the trees are evaluated. -/
def Accounted (ts : List Tree) (m n : Memory) (name : String) : Prop :=
  n.store.get? name = m.store.get? name ∨ ∃ value, n.store.get? name = some value ∧ Completes ts m name value

theorem Accounted.operand {t : Tree} {ts : List Tree} {m n : Memory} {name : String}
    (h : Accounted t.form.operands m n name) : Accounted (t :: ts) m n name := by
  rcases h with hsame | ⟨value, hvalue, hdone⟩
  · exact .inl hsame
  · exact .inr ⟨value, hvalue, hdone.operand⟩

theorem Accounted.later {t : Tree} {ts : List Tree} {m m' n : Memory} {name : String} {first : Value}
    (done : t.value m = (.ok first, m')) (h : Accounted (t :: ts) m m' name) (hmore : Accounted ts m' n name) :
    Accounted (t :: ts) m n name := by
  rcases hmore with hsame | ⟨value, hvalue, hdone⟩
  · unfold Accounted
    rw [hsame]
    exact h
  · exact .inr ⟨value, hvalue, hdone.later done⟩

theorem value_of_bigStep {t : Tree} {m n : Memory} {value : Value} (h : t.bigStep m = (.ok value, n)) :
    t.value m = (.ok value, n) := by
  rw [value_eq_reported, h]
  rfl

/-- The values of all variables are accounted for.  The operands of a tree weigh less than the tree, which carries the
induction. -/
theorem accounted_bigSteps (ts : List Tree) (result : Value) (m : Memory) (name : String) :
    Accounted ts m (bigSteps result ts m).2 name := by
  induction hweight : weights ts using Nat.strongRecOn generalizing ts result m with
  | ind weight ih =>
    subst hweight
    cases ts with
    | nil => exact .inl rfl
    | cons t ts =>
      have hweight : weights (t :: ts) = t.weight + 1 + weights ts := rfl
      have hlt := t.weights_operands_lt
      have hfirst : Accounted (t :: ts) m (t.bigStep m).2 name := by
        have hinside : Accounted (t :: ts) m (bigSteps .none t.form.operands m).2 name :=
          (ih _ (by omega) t.form.operands .none m rfl).operand
        unfold Accounted at hinside ⊢
        -- the tree itself can only set the name it assigns to, and this is the assignment that is completed
        rcases store_bigStep t m with hsame | ⟨target, operand, value, rfl, hok, hset⟩
        · rwa [hsame]
        · rw [hset, Store.get?_set]
          split
          · next htarget =>
            subst htarget
            exact .inr ⟨value, rfl, operand, m, _, .first, value_of_bigStep (Prod.ext hok rfl)⟩
          · exact hinside
      rw [bigSteps]
      rcases hstep : t.bigStep m with ⟨error | value, after⟩
      · rw [hstep] at hfirst
        exact hfirst
      · rw [hstep] at hfirst
        exact hfirst.later (value_of_bigStep hstep) (ih _ (by omega) ts value after rfl)

/-! ### Runs -/

theorem memory_run (t : Tree) (memory : Memory) : (t.run memory).2 = (bigSteps .none t.statements memory).2 := by
  rw [run_eq]
  rcases bigSteps .none t.statements memory with ⟨error | value, after⟩ <;> rfl

theorem run_agree {t : Tree} {names : String → Prop} (hnames : ∀ name, (atom name).OccursIn t → names name)
    {m n : Memory} (h : m.Agree names n) : (t.run m).Agree names (t.run n) := by
  rw [run_eq, run_eq]
  refine Outcome.Agree.andThen (bigSteps_agree ?_ h .none).reported fun value m n h => ⟨rfl, h⟩
  intro s hs m n h
  exact bigStep_agree (fun name hname => hnames name (hname.trans (occursIn_of_mem_statements hs))) h

/-- A run reads the variables that are named in its tree, and writes those that are assigned to in it.

Where two memories agree on the names in the tree, so do the memories that are left behind, and the values echoed and
the result or the error are the same.  However the run ends, a variable that is no target of an assignment in the tree
keeps its value or stays undefined, as does one that is spelled as a number, and any other one keeps its value or has
that of a completed assignment. -/
theorem run_frame (t : Tree) (memory : Memory) :
    (∀ other : Memory, memory.Agree (fun name => (atom name).OccursIn t) other →
      (t.run memory).Agree (fun name => (atom name).OccursIn t) (t.run other)) ∧
    ∀ name,
      ((¬ ∃ operand, (node [atom assignLabel, atom name, operand]).OccursIn t) ∨ isIntegerLiteral name →
        (t.run memory).2.store.get? name = memory.store.get? name) ∧
      Accounted t.statements memory (t.run memory).2 name := by
  refine ⟨fun other h => run_agree (fun name hname => hname) h, fun name => ?_⟩
  rw [memory_run]
  have haccounted := accounted_bigSteps t.statements .none memory name
  refine ⟨fun hfree => ?_, haccounted⟩
  rcases haccounted with hsame | ⟨value, -, hdone⟩
  · exact hsame
  · obtain ⟨hnumber, operand, s, hs, hoccurs⟩ := hdone.exists_occursIn
    rcases hfree with hnone | hliteral
    · exact absurd ⟨operand, hoccurs.trans (occursIn_of_mem_statements hs)⟩ hnone
    · exact absurd hliteral hnumber

end

/-- The tree of `x=2;y=x/0`. -/
def interruptedAssignment : Tree :=
  node [atom "sequence", node [atom "assign", atom "x", atom "2"],
    node [atom "assign", atom "y", node [atom "/", atom "x", atom "0"]]]

theorem run_frame_interruptedAssignment :
    let memory : Memory := ⟨⟨[("y", .int 7), ("z", .int 1)]⟩, []⟩
    let other : Memory := ⟨⟨[("y", .int 7)]⟩, []⟩
    let names := fun name => (atom name).OccursIn interruptedAssignment
    memory.Agree names other ∧ (interruptedAssignment.run memory).Agree names (interruptedAssignment.run other) ∧
      (¬ ∃ operand, (node [atom assignLabel, atom "z", operand]).OccursIn interruptedAssignment) ∧
      (interruptedAssignment.run memory).2.store.get? "z" = some (.int 1) ∧
      Accounted interruptedAssignment.statements memory (interruptedAssignment.run memory).2 "x" := by
  intro memory other names
  have hagree : memory.Agree names other := by
    refine ⟨fun name hname => ?_, rfl⟩
    have hz : "z" ≠ name := by
      rintro rfl
      simp [names, OccursIn, interruptedAssignment, below_node_iff, not_below_atom] at hname
    simp [memory, other, Store.get?, Store.lookupIn, hz]
  have hfree : ¬ ∃ operand, (node [atom assignLabel, atom "z", operand]).OccursIn interruptedAssignment := by
    rintro ⟨operand, hoccurs⟩
    simp [OccursIn, interruptedAssignment, below_node_iff, not_below_atom, assignLabel] at hoccurs
  obtain ⟨hreads, hwrites⟩ := run_frame interruptedAssignment memory
  exact ⟨hagree, hreads other hagree, hfree, (hwrites "z").1 (.inl hfree), (hwrites "x").2⟩

end Tree

end Precedence
