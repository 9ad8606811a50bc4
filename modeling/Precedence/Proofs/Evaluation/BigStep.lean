import Precedence.Proofs.Tree.Below

/-!
# Big-step evaluation

What a tree evaluates to, by recursion on the tree: the operands of a node in the order in which they are written, then
the node itself.  An error ends the evaluation, and what was assigned and echoed before it stays.

The walk that evaluates trees of any depth gives the same outcome (`value_eq_bigStep`), except that an error about a
tree that is too deep to be shown is replaced by another one.  The recursion at one node is to evaluate its operands and
to apply it to their values (`reported_bigStep`).  So a node on top of the stack leaves, when the walk is done with it,
its value behind the results that were there before, and nothing else has changed (`evaluates`).
-/

namespace Precedence

/-- The rest of an evaluation, with the value and the memory that the first part gives. -/
def Outcome.andThen (outcome : Outcome) (next : Value → Memory → Outcome) : Outcome :=
  match outcome with
  | (.error error, memory) => (.error error, memory)
  | (.ok value, memory) => next value memory

/-- What an atom evaluates to: an integer literal, or else a variable, or else a function. -/
def atomOutcome (text : String) (memory : Memory) : Outcome :=
  if isIntegerLiteral text then
    let digits := (literalDigits text.toList).length
    (if digits ≤ digitLimit then .ok (.int (literalValue text.toList)) else .error (.literalTooLong digits), memory)
  else match memory.store.get? text with
    | some value => (.ok value, memory)
    | none => if text = "echo" then (.ok .echo, memory) else (.error (.undefined text), memory)

/-- What a call evaluates to: only the function `echo` can be called. -/
def callOutcome (callee argument : Value) (memory : Memory) : Outcome :=
  match callee with
  | .echo => (.ok .none, memory.echo argument)
  | callee => (.error (match callee.text with
    | .ok text => .notCallable text
    | .error error => error), memory)

namespace Tree

mutual

/-- The outcome of evaluating a tree. -/
def bigStep : Tree → Memory → Outcome
  | failed, memory => (.error .incomplete, memory)
  | atom text, memory => atomOutcome text memory
  | node [], memory => (.error (.meaningless (node [])), memory)
  | node (atom label :: members), memory =>
    if label = "sequence" then bigSteps .none members memory
    else match members with
      | [operand] =>
        if label = "-" then
          (operand.bigStep memory).andThen fun value memory => (value.negate, memory)
        else
          (atomOutcome label memory).andThen fun callee memory =>
            (operand.bigStep memory).andThen fun argument memory => callOutcome callee argument memory
      | [left, right] =>
        if label = "assign" then
          match left with
          | atom name =>
            if isIntegerLiteral name then (.error (.badTarget left), memory)
            else (right.bigStep memory).andThen fun value memory => (.ok value, memory.assign name value)
          | _ => (.error (.badTarget left), memory)
        else match Operator.ofSymbol? label with
          | some op =>
            (left.bigStep memory).andThen fun a memory =>
              (right.bigStep memory).andThen fun b memory => (op.apply a b, memory)
          | none => (.error (.meaningless (node (atom label :: members))), memory)
      | _ => (.error (.meaningless (node (atom label :: members))), memory)
  | node [callee, argument], memory =>
    (callee.bigStep memory).andThen fun f memory =>
      (argument.bigStep memory).andThen fun a memory => callOutcome f a memory
  | node members, memory => (.error (.meaningless (node members)), memory)

/-- The outcome of evaluating trees one after the other, given the value of the one before them. -/
def bigSteps (value : Value) : List Tree → Memory → Outcome
  | [], memory => (.ok value, memory)
  | t :: ts, memory => (t.bigStep memory).andThen fun value memory => bigSteps value ts memory

end

end Tree

private theorem atomOutcome_eq (text : String) (memory : Memory) :
    atomOutcome text memory = (memory.lookup text, memory) := by
  have literal : isIntegerChars text.toList = isIntegerLiteral text := rfl
  simp only [atomOutcome, Memory.lookup, Memory.echoName, literal]
  split
  · rfl
  · cases memory.store.get? text with
    | some value => rfl
    | none => by_cases h : text = "echo" <;> simp [h]

/-- The error is about values and names, and no part of a tree is to blame. -/
def EvalError.IsPlain : EvalError → Prop
  | incomplete | meaningless _ | badTarget _ | nestedTooDeeply => False
  | _ => True

theorem isPlain_of_lookup {text : String} {memory : Memory} {error : EvalError}
    (h : memory.lookup text = .error error) : error.IsPlain := by
  unfold Memory.lookup at h
  grind [EvalError.IsPlain]

private theorem isPlain_of_toFloat? {value : Value} {error : EvalError}
    (h : value.toFloat? = some (.error error)) : error.IsPlain := by
  unfold Value.toFloat? at h
  grind [EvalError.IsPlain]

theorem isPlain_of_apply {op : Operator} {a b : Value} {error : EvalError}
    (h : op.apply a b = .error error) : error.IsPlain := by
  unfold Operator.apply at h
  split at h
  · unfold Operator.applyInt at h
    grind [EvalError.IsPlain]
  · split at h
    · rename_i x y left right
      rcases x with x | x
      · cases h
        exact isPlain_of_toFloat? left
      rcases y with y | y
      · cases h
        exact isPlain_of_toFloat? right
      change op.applyFloat x y = .error error at h
      unfold Operator.applyFloat at h
      grind [EvalError.IsPlain]
    · cases h
      trivial

theorem isPlain_of_negate {value : Value} {error : EvalError}
    (h : value.negate = .error error) : error.IsPlain := by
  unfold Value.negate at h
  grind [EvalError.IsPlain]

theorem isPlain_of_text {value : Value} {error : EvalError}
    (h : value.text = .error error) : error.IsPlain := by
  unfold Value.text at h
  grind [EvalError.IsPlain]

namespace Tree

variable {memory : Memory}

theorem bigStep_assign (target value : Tree) :
    (node [atom assignLabel, target, value]).bigStep memory = match target.targetName? with
      | none => (.error (.badTarget target), memory)
      | some name => (value.bigStep memory).andThen fun value memory => (.ok value, memory.assign name value) := by
  cases target with
  | atom name => by_cases literal : isIntegerLiteral name <;> simp [bigStep, targetName?, assignLabel, literal]
  | failed | node => rfl

theorem bigStep_call {callee : Tree} (hsequence : callee ≠ atom sequenceLabel) (hnegate : callee ≠ atom negateLabel)
    (argument : Tree) :
    (node [callee, argument]).bigStep memory = (callee.bigStep memory).andThen fun f memory =>
      (argument.bigStep memory).andThen fun a memory => callOutcome f a memory := by
  cases callee with
  | atom label =>
    have hlabel : label ≠ "sequence" := fun heq => hsequence (heq ▸ rfl)
    have hminus : label ≠ "-" := fun heq => hnegate (heq ▸ rfl)
    simp only [bigStep, hlabel, hminus, if_false]
  | failed | node => rfl

/-- A node without a meaning is to blame itself. -/
theorem bigStep_of_meaningless {members : List Tree} (h : Meaningless members) :
    (node members).bigStep memory = (.error (.meaningless (node members)), memory) := by
  rcases members with _ | ⟨tag, members⟩
  · rfl
  cases tag with
  | failed | node =>
    rcases members with _ | ⟨second, _ | ⟨third, rest⟩⟩
    · rfl
    · exact absurd rfl (h.not_pair _ second)
    · rfl
  | atom label =>
    have hlabel : label ≠ "sequence" := fun heq => h.not_sequence members (heq ▸ rfl)
    rcases members with _ | ⟨second, _ | ⟨third, _ | ⟨fourth, rest⟩⟩⟩
    · simp [bigStep, hlabel]
    · exact absurd rfl (h.not_pair _ second)
    · have hassign : label ≠ "assign" := fun heq => h.not_assign second third (heq ▸ rfl)
      have hoperator : Operator.ofSymbol? label = none := h.no_operator label second third rfl
      simp [bigStep, hlabel, hassign, hoperator]
    · simp [bigStep, hlabel]

end Tree

/-- The outcome of evaluating a tree, read off its form. -/
theorem bigStep_form (t : Tree) (memory : Memory) :
    t.bigStep memory = match t.form with
    | .incomplete => (.error .incomplete, memory)
    | .atom text => (memory.lookup text, memory)
    | .sequence members => Tree.bigSteps .none members memory
    | .assign target value =>
      match target.targetName? with
      | none => (.error (.badTarget target), memory)
      | some name => (value.bigStep memory).andThen fun value memory => (.ok value, memory.assign name value)
    | .binary op left right =>
      (left.bigStep memory).andThen fun a memory =>
        (right.bigStep memory).andThen fun b memory => (op.apply a b, memory)
    | .negate operand => (operand.bigStep memory).andThen fun value memory => (value.negate, memory)
    | .call callee argument =>
      (callee.bigStep memory).andThen fun f memory =>
        (argument.bigStep memory).andThen fun a memory => callOutcome f a memory
    | .other => (.error (.meaningless t), memory) := by
  have hform := t.hasForm
  generalize t.form = form at hform ⊢
  cases hform with
  | incomplete | negate => rfl
  | atom text => simp only [Tree.bigStep, atomOutcome_eq]
  | sequence =>
    unfold Tree.bigStep
    rfl
  | assign target value => exact Tree.bigStep_assign target value
  | binary op => cases op <;> rfl
  | call hsequence hnegate => exact Tree.bigStep_call hsequence hnegate _
  | other h => exact Tree.bigStep_of_meaningless h

theorem Evaluation.call_eq (callee argument : Value) (memory : Memory) :
    call callee argument memory = callOutcome callee argument memory := by
  cases callee <;> simp only [call, callOutcome]
  all_goals generalize Value.text _ = text; cases text <;> rfl

/-! ### Errors as they are reported -/

section

variable [Runtime]

/-- An error as it is reported: an error about a tree only if the tree can be shown. -/
def EvalError.reported : EvalError → EvalError
  | badTarget t => about badTarget t
  | meaningless t => about meaningless t
  | error => error

/-- The outcome with its error as it is reported. -/
def Outcome.reported : Outcome → Outcome
  | (.error error, memory) => (.error error.reported, memory)
  | outcome => outcome

theorem EvalError.IsPlain.reported_eq {error : EvalError} (h : error.IsPlain) : error.reported = error := by
  cases error with
  | incomplete | meaningless | badTarget | nestedTooDeeply => exact h.elim
  | _ => rfl

/-- The values of trees that are evaluated one after the other, unless one of them has none. -/
def Tree.values : List Tree → Memory → Except EvalError (List Value) × Memory
  | [], memory => (.ok [], memory)
  | t :: ts, memory =>
    match t.bigStep memory with
    | (.error error, memory) => (.error error.reported, memory)
    | (.ok value, memory) =>
      match Tree.values ts memory with
      | (.error error, memory) => (.error error, memory)
      | (.ok values, memory) => (.ok (value :: values), memory)

namespace Evaluation

theorem operandsOf_of_meaningless {members : List Tree} (h : Tree.Meaningless members) :
    operandsOf (.node members) = .error (.about .meaningless (.node members)) := by
  simp only [operandsOf, h.isTagged_sequence]
  rcases members with _ | ⟨tag, _ | ⟨left, _ | ⟨right, _ | ⟨next, rest⟩⟩⟩⟩
  · rfl
  · rfl
  · exact absurd rfl (h.not_pair tag left)
  · have hoperator : operator? tag = none := h.text?_bind_eq_none fun _ hnone => hnone
    simp [h.isTagged_assign, hoperator]
  · rfl

/-- The operands that are queued, read off the form of the node. -/
theorem operandsOf_form (t : Tree) :
    operandsOf t = match t.form with
    | .incomplete => .error .incomplete
    | .atom _ => .ok []
    | .sequence members => .ok members
    | .assign target value =>
      match target.targetName? with
      | none => .error (.about .badTarget target)
      | some _ => .ok [value]
    | .binary _ left right => .ok [left, right]
    | .negate operand => .ok [operand]
    | .call callee argument => .ok [callee, argument]
    | .other => .error (.about .meaningless t) := by
  have hform := t.hasForm
  generalize t.form = form at hform ⊢
  cases hform with
  | incomplete | atom => rw [operandsOf]
  | sequence | negate => rfl
  | assign left right =>
    have hsequence : (Tree.node [.atom Tree.assignLabel, left, right]).isTagged Tree.sequenceLabel = false := rfl
    have hassign : (Tree.node [.atom Tree.assignLabel, left, right]).isTagged Tree.assignLabel = true := rfl
    cases htarget : left.targetName? <;> simp [operandsOf, target, hsequence, hassign, htarget]
  | binary op => cases op <;> rfl
  | call hsequence hnegate =>
    simp [operandsOf, Tree.isTagged_pair_eq_false hsequence, Tree.isTagged_pair_eq_false hnegate]
  | other h => exact operandsOf_of_meaningless h

section

variable {memory : Memory}

theorem apply_assign {left right : Tree} {name : String} {value : Value} (h : left.targetName? = some name) :
    apply (.node [.atom Tree.assignLabel, left, right]) [value] memory = (.ok value, memory.assign name value) := by
  have hsequence : (Tree.node [.atom Tree.assignLabel, left, right]).isTagged Tree.sequenceLabel = false := rfl
  have hassign : (Tree.node [.atom Tree.assignLabel, left, right]).isTagged Tree.assignLabel = true := rfl
  simp [apply, hsequence, hassign, target, h]

theorem apply_binary {op : Operator} {left right : Tree} {a b : Value} :
    apply (.node [.atom op.symbol, left, right]) [a, b] memory = (op.apply a b, memory) := by
  cases op <;> rfl

theorem apply_negate {operand : Tree} {value : Value} :
    apply (.node [.atom Tree.negateLabel, operand]) [value] memory = (value.negate, memory) := rfl

theorem apply_call {callee argument : Tree} {f a : Value} (hsequence : callee ≠ .atom Tree.sequenceLabel)
    (hnegate : callee ≠ .atom Tree.negateLabel) :
    apply (.node [callee, argument]) [f, a] memory = callOutcome f a memory := by
  simp [apply, Tree.isTagged_pair_eq_false hsequence, Tree.isTagged_pair_eq_false hnegate, call_eq]

end

theorem reported_eq_of_isPlain {result : Except EvalError Value} {memory : Memory}
    (h : ∀ error, result = .error error → error.IsPlain) : Outcome.reported (result, memory) = (result, memory) := by
  cases result with
  | ok value => rfl
  | error error => rw [Outcome.reported, (h error rfl).reported_eq]

theorem reported_callOutcome (callee argument : Value) (memory : Memory) :
    (callOutcome callee argument memory).reported = callOutcome callee argument memory := by
  unfold callOutcome
  split
  · rfl
  · refine reported_eq_of_isPlain fun error h => ?_
    cases h
    split
    · trivial
    · next htext => exact isPlain_of_text htext

/-- A sequence gives the value of its last member. -/
theorem reported_bigSteps (value : Value) (members : List Tree) (memory : Memory) :
    (Tree.bigSteps value members memory).reported = match Tree.values members memory with
      | (.error error, memory) => (.error error, memory)
      | (.ok values, memory) => (.ok (values.getLast?.getD value), memory) := by
  induction members generalizing value memory with
  | nil => rfl
  | cons t ts ih =>
    rw [Tree.bigSteps, Tree.values]
    rcases t.bigStep memory with ⟨error | first, between⟩
    · rfl
    · simp only [Outcome.andThen, ih]
      rcases Tree.values ts between with ⟨error | values, after⟩
      · rfl
      · simp only [List.getLast?_cons, Option.getD_some]

/-- The recursion on a tree is to evaluate its operands one after the other and to apply the tree to their values. -/
theorem reported_bigStep (t : Tree) (memory : Memory) :
    (t.bigStep memory).reported = match operandsOf t with
      | .error error => (.error error, memory)
      | .ok operands =>
        match Tree.values operands memory with
        | (.error error, memory) => (.error error, memory)
        | (.ok values, memory) => apply t values memory := by
  rw [operandsOf_form, bigStep_form]
  have hform := t.hasForm
  generalize t.form = form at hform ⊢
  cases hform with
  | incomplete | other => rfl
  | atom text => exact reported_eq_of_isPlain fun _ => isPlain_of_lookup
  | sequence members => exact reported_bigSteps .none members memory
  | assign left right =>
    cases htarget : left.targetName? with
    | none => simp only [htarget]; rfl
    | some name =>
      simp only [htarget, Tree.values]
      rcases right.bigStep memory with ⟨error | value, memory⟩
      · rfl
      · exact (apply_assign htarget).symm
  | binary op left right =>
    simp only [Tree.values]
    rcases left.bigStep memory with ⟨error | a, memory⟩
    · rfl
    simp only [Outcome.andThen]
    rcases right.bigStep memory with ⟨error | b, memory⟩
    · rfl
    simp only [apply_binary]
    exact reported_eq_of_isPlain fun _ => isPlain_of_apply
  | negate operand =>
    simp only [Tree.values]
    rcases operand.bigStep memory with ⟨error | value, memory⟩
    · rfl
    simp only [Outcome.andThen, apply_negate]
    exact reported_eq_of_isPlain fun _ => isPlain_of_negate
  | @call callee argument hsequence hnegate =>
    simp only [Tree.values]
    rcases callee.bigStep memory with ⟨error | f, memory⟩
    · rfl
    simp only [Outcome.andThen]
    rcases argument.bigStep memory with ⟨error | a, memory⟩
    · rfl
    simp only [apply_call hsequence hnegate]
    exact reported_callOutcome f a memory

/-- There is a value for each of the trees. -/
theorem length_values {ts : List Tree} {memory after : Memory} {values : List Value}
    (h : Tree.values ts memory = (.ok values, after)) : values.length = ts.length := by
  induction ts generalizing memory values with
  | nil =>
    cases h
    rfl
  | cons t ts ih =>
    rw [Tree.values] at h
    rcases hfirst : t.bigStep memory with ⟨error | value, between⟩
    · simp [hfirst] at h
    rcases hrest : Tree.values ts between with ⟨error | rest, last⟩
    · simp [hfirst, hrest] at h
    simp only [hfirst, hrest, Prod.mk.injEq, Except.ok.injEq] at h
    obtain ⟨rfl, rfl⟩ := h
    rw [List.length_cons, List.length_cons, ih hrest]

/-! ### The steps of the walk -/

/-- The operands of a node come on top of it. -/
theorem loop_expand (t : Tree) (stack : List Pending) (results : List Value) (memory : Memory) :
    loop (⟨t, none⟩ :: stack) results memory = match operandsOf t with
      | .error error => (.error error, memory)
      | .ok operands => loop (operands.map (⟨·, none⟩) ++ ⟨t, some operands.length⟩ :: stack) results memory := by
  rw [loop]
  split <;> rename_i h <;> rw [h]
  simp only [pushAll_eq, ← List.map_reverse, List.reverse_reverse]

/-- A node is applied to the last results, which are taken away, and its value is put in their place. -/
theorem loop_apply (t : Tree) (args : List Value) (stack : List Pending) (results : List Value) (memory : Memory) :
    loop (⟨t, some args.length⟩ :: stack) (results ++ args) memory =
      (apply t args memory).andThen fun value memory => loop stack (results ++ [value]) memory := by
  rw [loop]
  have hlength : (results ++ args).length - args.length = results.length := by simp
  simp only [hlength, List.drop_left, List.take_left]
  rcases apply t args memory with ⟨error | value, after⟩ <;> rfl

/-- What the walk does with a node: it leaves the outcome of the recursion, with the value behind the results that were
there before. -/
def Evaluates (t : Tree) : Prop :=
  ∀ stack results memory, loop (⟨t, none⟩ :: stack) results memory =
    (t.bigStep memory).reported.andThen fun value memory => loop stack (results ++ [value]) memory

/-- Nodes that are queued one on top of the other leave their values in order. -/
theorem loop_operands {operands : List Tree} (h : ∀ s ∈ operands, Evaluates s) (stack : List Pending)
    (results : List Value) (memory : Memory) :
    loop (operands.map (⟨·, none⟩) ++ stack) results memory = match Tree.values operands memory with
      | (.error error, memory) => (.error error, memory)
      | (.ok values, memory) => loop stack (results ++ values) memory := by
  induction operands generalizing results memory with
  | nil => simp [Tree.values]
  | cons t ts ih =>
    obtain ⟨hfirst, hrest⟩ := List.forall_mem_cons.mp h
    rw [List.map_cons, List.cons_append, hfirst, Tree.values]
    rcases t.bigStep memory with ⟨error | value, between⟩
    · rfl
    simp only [Outcome.reported, Outcome.andThen, ih hrest]
    rcases Tree.values ts between with ⟨error | values, after⟩
    · rfl
    · simp only [List.append_assoc, List.singleton_append]

theorem evaluates (t : Tree) : Evaluates t := by
  induction t using Tree.weight_induction with
  | step t ih =>
    intro stack results memory
    rw [loop_expand, reported_bigStep]
    cases hoperands : operandsOf t with
    | error error => rfl
    | ok operands =>
      have hmem : ∀ s ∈ operands, Evaluates s := fun s hs =>
        ih s (Nat.lt_trans (Tree.weight_lt_weights hs) (weights_lt_of_operandsOf hoperands))
      simp only [loop_operands hmem]
      rcases hvalues : Tree.values operands memory with ⟨error | values, after⟩
      · rfl
      · simp only [← length_values hvalues, loop_apply]

end Evaluation

namespace EvalError

private theorem about_eq_or {error : Tree → EvalError} {t : Tree} :
    about error t = error t ∨ about error t = nestedTooDeeply := by
  unfold about
  split
  · exact .inl rfl
  · exact .inr rfl

theorem reported_eq_or (error : EvalError) : error.reported = error ∨ error.reported = nestedTooDeeply := by
  cases error
  case badTarget t => exact about_eq_or
  case meaningless t => exact about_eq_or
  all_goals exact .inl rfl

end EvalError

namespace Tree

/-- Evaluation gives the outcome of the recursion on the tree, with its error as it is reported. -/
theorem value_eq_reported (t : Tree) (memory : Memory) : t.value memory = (t.bigStep memory).reported := by
  rw [value, Evaluation.evaluates]
  rcases (t.bigStep memory).reported with ⟨error | result, after⟩
  · rfl
  · rw [Outcome.andThen, List.nil_append, Evaluation.loop, List.headD_cons]

/-- Unless a node is too deep to be shown in an error, evaluation gives the outcome of the recursion on the tree: its
value or its error, the values echoed and the variables left behind. -/
theorem value_eq_bigStep {t : Tree} {memory : Memory} (shown : (t.value memory).1 ≠ .error .nestedTooDeeply) :
    t.value memory = t.bigStep memory := by
  rw [value_eq_reported] at shown ⊢
  generalize t.bigStep memory = outcome at shown ⊢
  rcases outcome with ⟨error | value, left⟩
  · rcases error.reported_eq_or with same | tooDeep
    · simp only [Outcome.reported, same]
    · simp only [Outcome.reported, tooDeep] at shown
      contradiction
  · rfl

end Tree

end

namespace Tree

/-- Variables and echoed values from before an error stay, and nothing after it is evaluated:
`x = 2; echo(x * 3); y = x / 0; echo(7)`. -/
theorem value_eq_bigStep_divisionByZero :
    let t := node [atom "sequence", node [atom "assign", atom "x", atom "2"],
      node [atom "echo", node [atom "*", atom "x", atom "3"]],
      node [atom "assign", atom "y", node [atom "/", atom "x", atom "0"]], node [atom "echo", atom "7"]]
    (t.value .empty).1 ≠ .error .nestedTooDeeply ∧
      t.value .empty = (.error .integerDivisionByZero, ⟨⟨[("x", .int 2)]⟩, [.int 6]⟩) := by
  intro t
  have outcome : t.bigStep .empty = (.error .integerDivisionByZero, ⟨⟨[("x", .int 2)]⟩, [.int 6]⟩) := by rfl
  have shown : (t.value .empty).1 ≠ .error .nestedTooDeeply := by
    rw [value_eq_reported, outcome]
    simp [Outcome.reported, EvalError.reported]
  exact ⟨shown, (value_eq_bigStep shown).trans outcome⟩

end Tree

end Precedence
