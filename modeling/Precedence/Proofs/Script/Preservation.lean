import Precedence.Proofs.Evaluation.Statements
import Precedence.Proofs.Script.RoundTrip

/-!
# Compilation preserves what a statement does

The text of a statement is read as a tree that does what the statement does: it echoes the same values, leaves the same
variables, and has the same value or the same error (`run_alike`).

Two things may differ between the trees.  Numbers are respelled, which changes no value (`bigStep_respelled`).  And
where a negative number is called, the sign goes to the whole call (`reread_alike`).  A number is no function, so that
the evaluation ends there in both trees, in front of the sign and behind it; only the number in the message is another
one.
-/

namespace Precedence

/-- The same error, or calls of two values that are no functions. -/
inductive EvalError.Alike : EvalError → EvalError → Prop
  | refl (error : EvalError) : EvalError.Alike error error
  | notCallable (text text' : String) : EvalError.Alike (.notCallable text) (.notCallable text')

/-- The same variables and the same echoed values are left behind, with the same value or with errors that are alike. -/
inductive Outcome.Alike : Outcome → Outcome → Prop
  | ok (value : Value) (memory : Memory) : Outcome.Alike (.ok value, memory) (.ok value, memory)
  | error {error error' : EvalError} (h : error.Alike error') (memory : Memory) :
      Outcome.Alike (.error error, memory) (.error error', memory)

namespace Outcome.Alike

theorem refl (outcome : Outcome) : outcome.Alike outcome := by
  rcases outcome with ⟨error | value, memory⟩
  · exact .error (.refl error) memory
  · exact .ok value memory

theorem andThen {outcome outcome' : Outcome} {next next' : Value → Memory → Outcome} (h : outcome.Alike outcome')
    (hnext : ∀ value memory, (next value memory).Alike (next' value memory)) :
    (outcome.andThen next).Alike (outcome'.andThen next') := by
  cases h with
  | ok value memory => exact hnext value memory
  | error h memory => exact .error h memory

theorem reported [Runtime] {outcome outcome' : Outcome} (h : outcome.Alike outcome') :
    outcome.reported.Alike outcome'.reported := by
  cases h with
  | ok value memory => exact .ok value memory
  | error h memory =>
    cases h with
    | refl error => exact .refl _
    | notCallable text text' => exact .error (.notCallable text text') memory

end Outcome.Alike

theorem Outcome.exists_of_andThen {outcome : Outcome} {next : Value → Memory → Outcome} {value : Value} {left : Memory}
    (h : outcome.andThen next = (.ok value, left)) :
    ∃ first memory, outcome = (.ok first, memory) ∧ next first memory = (.ok value, left) := by
  rcases outcome with ⟨error | first, memory⟩
  · cases h
  · exact ⟨first, memory, rfl, h⟩

theorem eq_none_of_callOutcome {callee argument value : Value} {memory left : Memory}
    (h : callOutcome callee argument memory = (.ok value, left)) : value = .none := by
  unfold callOutcome at h
  split at h
  · cases h
    rfl
  · cases h

/-- Numbers of the same size are called in vain alike. -/
theorem callOutcome_int_alike {m n : Int} (h : m.natAbs = n.natAbs) (argument : Value) (memory : Memory) :
    (callOutcome (.int m) argument memory).Alike (callOutcome (.int n) argument memory) := by
  unfold callOutcome Value.text
  dsimp only
  rw [h]
  by_cases hshort : n.natAbs < Number.tenTo digitLimit
  · rw [if_pos hshort, if_pos hshort]
    exact .error (.notCallable _ _) memory
  · rw [if_neg hshort, if_neg hshort]
    exact .refl _

namespace Script

open Arithmetic

/-! ### Respelled numbers -/

theorem lookup_respelledText {text : String} (hliteral : isIntegerLiteral text)
    (short : (literalDigits text.toList).length ≤ digitLimit) (memory : Memory) :
    memory.lookup (Tree.respelledText text) = memory.lookup text := by
  have hchars : isIntegerChars text.toList := hliteral
  have hchars' : isIntegerChars (toString (literalValue text.toList)).toList := isIntegerLiteral_toString _
  have hle := length_literalDigits_toString_le hchars
  have hshort : (literalDigits (toString (literalValue text.toList)).toList).length ≤ digitLimit :=
    Nat.le_trans hle short
  rw [Tree.respelledText, if_pos hliteral]
  simp only [Memory.lookup, hchars, hchars', short, hshort, literalValue_toString, if_true]

/-- An expression evaluates as it does with other spellings of its numbers. -/
theorem Expressible.bigStep_respelled {t : Tree} (h : Expressible t) (memory : Memory) :
    t.respelled.bigStep memory = t.bigStep memory := by
  induction h generalizing memory with
  | @literal text hliteral short =>
    rw [Tree.respelled, bigStep_form, bigStep_form]
    show (memory.lookup _, memory) = (memory.lookup _, memory)
    rw [lookup_respelledText hliteral short]
  | name x => rw [Tree.respelled, Tree.respelledText, if_neg x.not_isIntegerLiteral]
  | @negation t _ _ ih =>
    have hrespelled : (Tree.node [.atom Tree.negateLabel, t]).respelled =
        .node [.atom Tree.negateLabel, t.respelled] := rfl
    rw [hrespelled, bigStep_form, bigStep_form, form_negate, form_negate]
    simp only [ih]
  | @binary op l r _ _ ihleft ihright =>
    have hrespelled : (Tree.node [.atom op.symbol, l, r]).respelled =
        .node [.atom op.symbol, l.respelled, r.respelled] := by cases op <;> rfl
    rw [hrespelled, bigStep_form, bigStep_form, form_binary, form_binary]
    simp only [ihleft, ihright]
  | @call f a callee _ untagged ihcallee ihargument =>
    have hsequence : f.respelled ≠ .atom Tree.sequenceLabel :=
      fun hlabel => untagged (eq_atom_of_respelled hlabel (by decide))
    have hnegate : f.respelled ≠ .atom Tree.negateLabel :=
      fun hlabel => callee.ne_negateLabel (eq_atom_of_respelled hlabel (by decide))
    have hrespelled : (Tree.node [f, a]).respelled = .node [f.respelled, a.respelled] := rfl
    rw [hrespelled, bigStep_form, bigStep_form, form_call hsequence hnegate,
      form_call untagged callee.ne_negateLabel]
    simp only [ihcallee, ihargument]

/-! ### Calls of negative numbers -/

namespace Expr

theorem bigStep_number (n : Int) (short : (Nat.toDigits 10 n.natAbs).length ≤ digitLimit) (memory : Memory) :
    (number n short).tree.bigStep memory = (.ok (.int n), memory) := by
  have hchars : isIntegerChars (toString n).toList := isIntegerLiteral_toString n
  rw [bigStep_form]
  show (memory.lookup (toString n), memory) = _
  simp only [Memory.lookup, hchars, literalDigits_toString, short, literalValue_toString, if_true]

theorem bigStep_binary (op : Operator) (left right : Expr) (memory : Memory) :
    (binary op left right).tree.bigStep memory = (left.tree.bigStep memory).andThen fun a memory =>
      (right.tree.bigStep memory).andThen fun b memory => (op.apply a b, memory) := by
  rw [bigStep_form, tree, form_binary]

theorem bigStep_negate (operand : Expr) (memory : Memory) :
    (negate operand).tree.bigStep memory =
      (operand.tree.bigStep memory).andThen fun value memory => (value.negate, memory) := by
  rw [bigStep_form, tree, form_negate]

theorem bigStep_call {callee argument : Expr} (h : (call callee argument).Proper) (memory : Memory) :
    (call callee argument).tree.bigStep memory = (callee.tree.bigStep memory).andThen fun f memory =>
      (argument.tree.bigStep memory).andThen fun a memory => callOutcome f a memory := by
  rw [bigStep_form, form_call h]

/-- A call that begins with a negative number has no value. -/
theorem exists_error_of_isNegative {callee argument : Expr} (h : (call callee argument).Proper)
    (hnegative : callee.isNegative) (memory : Memory) :
    ∃ error left, (call callee argument).tree.bigStep memory = (.error error, left) := by
  rw [bigStep_call h]
  cases callee with
  | number n short =>
    rw [bigStep_number]
    rcases hargument : argument.tree.bigStep memory with ⟨error | value, left⟩
    · exact ⟨error, left, by simp only [Outcome.andThen, hargument]⟩
    · exact ⟨_, left, by simp only [Outcome.andThen, hargument, callOutcome]; rfl⟩
  | call callee inner =>
    obtain ⟨error, left, herror⟩ := exists_error_of_isNegative h.1 hnegative memory
    rw [herror]
    exact ⟨error, left, rfl⟩
  | name => cases hnegative
  | binary => cases hnegative
  | negate => cases hnegative

private theorem reread_alike_of {e : Expr} (h : e.Proper)
    (hcore : (∀ n short, e ≠ number n short) → ∀ memory, (e.core.tree.bigStep memory).Alike (e.tree.bigStep memory))
    (memory : Memory) : (e.reread.tree.bigStep memory).Alike (e.tree.bigStep memory) := by
  cases e with
  | number n short =>
    have hplain : (number n short).Plain := trivial
    rw [reread_eq hplain]
    exact .refl _
  | call callee argument =>
    have hne : ∀ n short, call callee argument ≠ number n short := by
      intro n short heq
      cases heq
    have hcall := hcore hne memory
    rw [reread, signed]
    split
    · next hnegative =>
      -- there is nothing to negate, neither behind the sign nor without it
      obtain ⟨error, left, herror⟩ := exists_error_of_isNegative h hnegative memory
      rw [herror] at hcall ⊢
      show ((negate (call callee argument).core).tree.bigStep memory).Alike _
      rw [bigStep_negate]
      generalize (call callee argument).core.tree.bigStep memory = outcome at hcall ⊢
      cases hcall with
      | error hkind => exact .error hkind left
    · exact hcall
  | name =>
    refine hcore (fun n short heq => ?_) memory
    cases heq
  | binary =>
    refine hcore (fun n short heq => ?_) memory
    cases heq
  | negate =>
    refine hcore (fun n short heq => ?_) memory
    cases heq

/-- What is read behind the sign of a called number evaluates like the expression with the sign. -/
theorem core_alike {e : Expr} (h : e.Proper) (hne : ∀ n short, e ≠ number n short) (memory : Memory) :
    (e.core.tree.bigStep memory).Alike (e.tree.bigStep memory) := by
  induction e generalizing memory with
  | number n short => exact absurd rfl (hne n short)
  | name x => exact .refl _
  | binary op left right ihleft ihright =>
    rw [core, bigStep_binary, bigStep_binary]
    refine (reread_alike_of h.1 (ihleft h.1) memory).andThen fun a memory => ?_
    refine (reread_alike_of h.2 (ihright h.2) memory).andThen fun b memory => ?_
    exact .refl _
  | negate operand ih =>
    rw [core, bigStep_negate, bigStep_negate]
    exact (reread_alike_of h.1 (ih h.1) memory).andThen fun value memory => .refl _
  | call callee argument ihcallee ihargument =>
    have hcore : (call callee.core argument.reread).Proper := h.core
    have hargument : ∀ memory, (argument.reread.tree.bigStep memory).Alike (argument.tree.bigStep memory) :=
      reread_alike_of h.2.1 (ihargument h.2.1)
    show ((call callee.core argument.reread).tree.bigStep memory).Alike _
    rw [bigStep_call h, bigStep_call hcore]
    by_cases hnumber : ∃ n short, callee = number n short
    · obtain ⟨n, short, rfl⟩ := hnumber
      rw [core, bigStep_number, bigStep_number]
      refine (hargument memory).andThen fun value memory => ?_
      exact callOutcome_int_alike (Int.natAbs_natCast _) value memory
    · simp only [not_exists] at hnumber
      refine (ihcallee h.1 hnumber memory).andThen fun f memory => ?_
      exact (hargument memory).andThen fun value memory => .refl _

/-- An expression that is read again evaluates like the expression. -/
theorem reread_alike {e : Expr} (h : e.Proper) (memory : Memory) :
    (e.reread.tree.bigStep memory).Alike (e.tree.bigStep memory) :=
  reread_alike_of h (core_alike h) memory

end Expr

/-! ### Statements -/

/-- A tree with a single statement does what this does. -/
theorem run_of_statement [Runtime] {t : Tree} {text : String} (h : statement t = .ok text) (memory : Memory) :
    t.run memory = (t.value memory).andThen fun value memory =>
      (.ok (if t.isTagged Tree.assignLabel then .none else value), memory) := by
  rw [Tree.run_eq, statements_of_statement h, Tree.bigSteps_singleton, Tree.value_eq_reported]
  rfl

/-- A call has no value, also where the callee has the name of the tag of assignments. -/
theorem eq_none_of_isTagged {t : Tree} (htagged : t.isTagged Tree.assignLabel) (hassignment : ¬ t.IsAssignment)
    {memory left : Memory} {value : Value} (hvalue : t.bigStep memory = (.ok value, left)) : value = .none := by
  obtain ⟨members, rfl⟩ := Tree.eq_of_isTagged htagged
  rw [bigStep_form] at hvalue
  match members with
  | [] => cases hvalue
  | [argument] =>
    have hform : (Tree.node [.atom Tree.assignLabel, argument]).form = .call (.atom Tree.assignLabel) argument := by
      simp [Tree.form, Tree.taggedForm, Tree.assignLabel, Tree.sequenceLabel, Tree.negateLabel]
    simp only [hform] at hvalue
    obtain ⟨f, memory', -, hvalue⟩ := Outcome.exists_of_andThen hvalue
    obtain ⟨a, memory', -, hvalue⟩ := Outcome.exists_of_andThen hvalue
    exact eq_none_of_callOutcome hvalue
  | [target, value] => exact absurd ⟨target, value, rfl⟩ hassignment
  | first :: second :: third :: members => cases hvalue

theorem value_alike [Runtime] {t t' : Tree} {memory : Memory} (h : (t.bigStep memory).Alike (t'.bigStep memory)) :
    (t.value memory).Alike (t'.value memory) := by
  rw [Tree.value_eq_reported, Tree.value_eq_reported]
  exact h.reported

/-- A statement that is no assignment does what the expression does. -/
theorem run_eq_value [Runtime] {t : Tree} {text : String} (h : statement t = .ok text) (hassignment : ¬ t.IsAssignment)
    (memory : Memory) : t.run memory = t.value memory := by
  rw [run_of_statement h, Tree.value_eq_reported]
  rcases hvalue : t.bigStep memory with ⟨error | value, left⟩
  · rfl
  · show (Except.ok (if t.isTagged Tree.assignLabel then .none else value), left) = (Except.ok value, left)
    split
    · next htagged => rw [eq_none_of_isTagged htagged hassignment hvalue]
    · rfl

/-- The text of an expression is read as an expression that evaluates alike. -/
theorem Expressible.exists_reread {t : Tree} {text : String} (h : Expressible t) (written : emit t 0 = .ok text) :
    ∃ e : Expr, e.Proper ∧ e.text 0 = text ∧ ∀ memory, (e.reread.tree.bigStep memory).Alike (t.bigStep memory) := by
  obtain ⟨e, hproper, htree, htext, -⟩ := h.exists_expr
  refine ⟨e, hproper, Except.ok.inj ((htext 0).symm.trans written), fun memory => ?_⟩
  rw [← h.bigStep_respelled, ← htree]
  exact Expr.reread_alike hproper memory

theorem assignment_alike {target value value' : Tree} {memory : Memory}
    (h : ∀ memory, (value.bigStep memory).Alike (value'.bigStep memory)) :
    ((Tree.node [.atom Tree.assignLabel, target, value]).bigStep memory).Alike
      ((Tree.node [.atom Tree.assignLabel, target, value']).bigStep memory) := by
  rw [bigStep_form, bigStep_form, form_assign, form_assign]
  dsimp only
  cases target.targetName? with
  | none => exact .refl _
  | some name => exact (h memory).andThen fun value memory => .refl _

/-- The text of a statement of an accepted text is read as a tree that does what the statement does, unless it is nested
too deeply. -/
theorem run_alike [Runtime] {source p : String} {tree s : Tree}
    (accepted : (parser true).parse source = .ok tree) (mem : s ∈ tree.statements)
    (flat : ∀ u : Tree, u.Below s → ¬ u.IsAssignment) (written : statement s = .ok p) :
    (parser true).parse p = .error .nestedTooDeeply ∨
      ∃ t, (parser true).parse p = .ok t ∧ ∀ memory, (t.run memory).Alike (s.run memory) := by
  obtain ⟨tokens, hrenders, hphrase⟩ := exists_of_parse accepted
  have shaped : Shaped s := (hphrase.shaped hrenders.lexeme_of_mem).of_mem_statements mem
  rcases expression_or_assignment shaped flat written with
    ⟨hassignment, hexpressible, hwritten⟩ | ⟨x, value, text, rfl, hexpressible, hwritten, rfl⟩
  · obtain ⟨e, hproper, rfl, halike⟩ := hexpressible.exists_reread hwritten
    obtain ⟨tokens', hrenders', hphrase'⟩ := exists_reading_of_expr hproper
    rcases parse_of_renders true hrenders' hphrase' with hdeep | hparse
    · exact .inl hdeep
    · refine .inr ⟨_, hparse, fun memory => ?_⟩
      rw [run_eq_value written hassignment, run_eq_value (Expr.statement_tree hproper.reread) e.reread.not_isAssignment]
      exact value_alike (halike memory)
  · obtain ⟨e, hproper, rfl, halike⟩ := hexpressible.exists_reread hwritten
    obtain ⟨tokens', hrenders', hphrase'⟩ := exists_reading_of_assignment x hproper
    rcases parse_of_renders true hrenders' hphrase' with hdeep | hparse
    · exact .inl hdeep
    · refine .inr ⟨_, hparse, fun memory => ?_⟩
      rw [run_of_statement written, run_of_statement (statement_assignment hproper.reread)]
      exact (value_alike (assignment_alike halike)).andThen fun value memory => .refl _

/-- The tokens of `(echo(n))` for a numeral. -/
def echoedNumeral (digits : String) : List Token :=
  [⟨.openParen, "("⟩, ⟨.symbol, "echo"⟩, ⟨.openParen, "("⟩, ⟨.number, digits⟩, ⟨.closeParen, ")"⟩, ⟨.closeParen, ")"⟩]

private theorem renders_echoedNumeral {digits : List Char} (h : isNumeral digits) :
    Renders (echoedNumeral (String.ofList digits)) ('(' :: ("echo".toList ++ '(' :: (digits ++ [')', ')']))) := by
  have hclosed : Renders [⟨.closeParen, ")"⟩, ⟨.closeParen, ")"⟩] [')', ')'] :=
    .mark (by decide) (.mark (by decide) (.nil (List.forall_mem_nil _)))
  have hnumeral := hclosed.lexeme (.number h) (by simp [show Text.isDigit ')' = false by decide])
  have hopened : Renders [⟨.openParen, "("⟩, ⟨.number, String.ofList digits⟩, ⟨.closeParen, ")"⟩, ⟨.closeParen, ")"⟩]
      ('(' :: (digits ++ [')', ')'])) := .mark (by decide) hnumeral
  have hecho : Lexeme .symbol ['e', 'c', 'h', 'o'] := .symbol (by decide) (List.all_eq_true.mp (by decide))
  exact .mark (by decide) (hopened.lexeme hecho (by simp [show isWordChar '(' = false by decide]))

/-- The tokens of `(-5)(echo(007))`. -/
def calledNegative : List Token :=
  [⟨.openParen, "("⟩, ⟨.minus, "-"⟩, ⟨.number, "5"⟩, ⟨.closeParen, ")"⟩] ++ echoedNumeral "007"

/-- The tree of `(-5)(echo(007))`. -/
def calledNegativeTree : Tree := .node [.atom "-5", .node [.atom "echo", .atom "007"]]

/-- The tokens of `-5(echo(7))`. -/
def negatedCall : List Token := [⟨.minus, "-"⟩, ⟨.number, "5"⟩] ++ echoedNumeral "7"

/-- The tree of `-5(echo(7))`. -/
def negatedCallTree : Tree := .node [.atom "-", .node [.atom "5", .node [.atom "echo", .atom "7"]]]

private theorem parse_calledNegative : (parser true).parse "(-5)(echo(007))" = .ok calledNegativeTree := by
  have hseven : isNumeral ['0', '0', '7'] := by decide
  have hfive : Lexeme .number ['5'] := .number (by decide)
  have hcallee : Renders (⟨.number, "5"⟩ :: ⟨.closeParen, ")"⟩ :: echoedNumeral "007")
      ('5' :: ')' :: '(' :: ("echo".toList ++ '(' :: (['0', '0', '7'] ++ [')', ')']))) :=
    (Renders.mark (by decide) (renders_echoedNumeral hseven)).lexeme hfive
      (by simp [show Text.isDigit ')' = false by decide])
  have hrenders : Renders calledNegative "(-5)(echo(007))".toList := .mark (by decide) (.mark (by decide) hcallee)
  exact parse_of_wholeExpression true hrenders (List.cons_ne_nil _ _) rfl rfl

private theorem parse_negatedCall : (parser true).parse "-5(echo(7))" = .ok negatedCallTree := by
  have hseven : isNumeral ['7'] := by decide
  have hfive : Lexeme .number ['5'] := .number (by decide)
  have hcall : Renders (⟨.number, "5"⟩ :: echoedNumeral "7")
      ('5' :: '(' :: ("echo".toList ++ '(' :: (['7'] ++ [')', ')']))) :=
    (renders_echoedNumeral hseven).lexeme hfive (by simp [show Text.isDigit '(' = false by decide])
  have hrenders : Renders negatedCall "-5(echo(7))".toList := .mark (by decide) hcall
  exact parse_of_wholeExpression true hrenders (List.cons_ne_nil _ _) rfl rfl

private theorem statement_calledNegativeTree : statement calledNegativeTree = .ok "-5(echo(7))" := by
  have hseven : emit (.atom "007") 0 = .ok "7" := by
    rw [emit_form]
    rfl
  have hecho : emit (.atom "echo") primaryPrecedence = .ok "echo" := by
    rw [emit_form]
    rfl
  have hfive : emit (.atom "-5") primaryPrecedence = .ok "-5" := by
    rw [emit_form]
    rfl
  have hargument : emit (.node [.atom "echo", .atom "007"]) 0 = .ok "echo(7)" := by
    rw [emit_form, form_call (by simp [Tree.sequenceLabel]) (by simp [Tree.negateLabel])]
    simp only [hecho, hseven]
    rfl
  have hform : calledNegativeTree.form = .call (.atom "-5") (.node [.atom "echo", .atom "007"]) :=
    form_call (by simp [Tree.sequenceLabel]) (by simp [Tree.negateLabel]) _
  have hcall : emit calledNegativeTree 0 = .ok "-5(echo(7))" := by
    rw [emit_form, hform]
    simp only [hfive, hargument]
    rfl
  simp only [statement_form, hform, expression_eq_emit, hcall]

theorem run_alike_calledNegative :
    (parser true).parse "(-5)(echo(007))" = .ok calledNegativeTree ∧
      calledNegativeTree ∈ calledNegativeTree.statements ∧
      (∀ u : Tree, u.Below calledNegativeTree → ¬ u.IsAssignment) ∧
      statement calledNegativeTree = .ok "-5(echo(7))" ∧
      (parser true).parse "-5(echo(7))" = .ok negatedCallTree ∧
      ∀ memory, (negatedCallTree.run memory).Alike (calledNegativeTree.run memory) := by
  have accepted := parse_calledNegative
  have written := statement_calledNegativeTree
  have mem : calledNegativeTree ∈ calledNegativeTree.statements := by
    rw [statements_of_statement written]
    exact List.mem_singleton_self _
  have flat : ∀ u : Tree, u.Below calledNegativeTree → ¬ u.IsAssignment := by
    rintro u hbelow ⟨target, value, rfl⟩
    simp [calledNegativeTree, Tree.below_node_iff, Tree.not_below_atom] at hbelow
  refine ⟨accepted, mem, flat, written, parse_negatedCall, ?_⟩
  rcases run_alike accepted mem flat written with hdeep | ⟨t, hparse, halike⟩
  · cases parse_negatedCall.symm.trans hdeep
  · cases parse_negatedCall.symm.trans hparse
    exact halike

end Script

end Precedence
