import Precedence.Proofs.Arithmetic.Acceptance
import Precedence.Proofs.Script.Rereading
import Precedence.Proofs.Tree.Statements

/-!
# Statements of a script are read back

The text of a statement is a text of the arithmetic grammar.  Its tree has the same text again, and it is the tree of
the statement with its numbers respelled, unless a negative number is called in it (`statement_roundTrip`).  Assignments
inside of a statement are left out: their text is none of the grammar.
-/

namespace Precedence.Script

open Arithmetic

/-- A statement that is no assignment is written as an expression. -/
theorem statement_eq_expression {t : Tree} (h : ¬ t.IsAssignment) : statement t = expression t := by
  rw [statement_form]
  split
  · next target value hform => exact absurd ⟨target, value, Tree.eq_of_form_assign hform⟩ h
  · rfl

theorem Expr.not_isAssignment (e : Expr) : ¬ e.tree.IsAssignment := by
  rintro ⟨target, value, h⟩
  cases e with
  | binary op =>
    have hlabel : op.symbol = Tree.assignLabel := by
      simp only [tree, Tree.node.injEq, List.cons.injEq, Tree.atom.injEq] at h
      exact h.1
    cases op <;> exact absurd hlabel (by decide)
  | number => cases h
  | name => cases h
  | negate => simp [tree] at h
  | call => simp [tree] at h

/-- The text of the tree of an expression as a statement. -/
theorem Expr.statement_tree {e : Expr} (h : e.Proper) : statement e.tree = .ok (e.text 0) := by
  rw [statement_eq_expression e.not_isAssignment, expression_eq_emit, emit_tree h]

/-- A tree with a text is a single statement. -/
theorem statements_of_statement {t : Tree} {text : String} (h : statement t = .ok text) : t.statements = [t] := by
  cases hmembers : t.sequenceMembers? with
  | none => exact Tree.statements_of_no_sequence hmembers
  | some members =>
    rw [Tree.eq_of_sequenceMembers? hmembers] at h
    have hform : (Tree.node (.atom Tree.sequenceLabel :: members)).form = .sequence members := by
      simp [Tree.form, Tree.taggedForm]
    simp only [statement_form, hform, expression_eq_emit, emit_form] at h
    cases h

theorem ofTree_of_statement {t : Tree} {text : String} (h : statement t = .ok text) : ofTree t = .ok text := by
  simp [ofTree, statements_of_statement h, h, pure, Except.pure, bind, Except.bind]

/-! ### Rereading of statements -/

/-- The text of an expression is read as the expression that is read again. -/
theorem exists_reading_of_expr {e : Expr} (h : e.Proper) :
    ∃ tokens, Renders tokens (e.text 0).toList ∧ Phrase .statements tokens e.reread.tree :=
  ⟨e.tokens 0, (e.writes_tokens 0).renders, (Expr.phrase_tokens h (Nat.zero_le _)).loosen (Nat.zero_le _)⟩

/-- The text of an assignment of an expression is read as an assignment of the expression that is read again. -/
theorem exists_reading_of_assignment (x : Name) {e : Expr} (h : e.Proper) :
    ∃ tokens, Renders tokens (x.text ++ " = " ++ e.text 0).toList ∧
      Phrase .statements tokens (.node [.atom Tree.assignLabel, .atom x.text, e.reread.tree]) := by
  refine ⟨⟨.symbol, x.text⟩ :: ⟨.assign, "="⟩ :: e.tokens 0, ?_, ?_⟩
  · have hvalue := (Expr.Writes.mark .assign '=' (by decide) (e.writes_tokens 0).space).space
    have h := ((Expr.name x).writes_tokens 0).append hvalue (Expr.apart_cons (by decide))
    simpa [Expr.text, Expr.tokens, Expr.sign, Expr.isNegative, Expr.coreTokens, String.toList_append] using h.renders
  · have hname : Phrase .primary [⟨.symbol, x.text⟩] (.atom x.text) := .symbol rfl
    have htarget : Phrase .assignment [⟨.symbol, x.text⟩] (.atom x.text) := hname.loosen (by decide)
    have hvalue : Phrase .sum (e.tokens 0) e.reread.tree := Expr.phrase_tokens h (Nat.zero_le _)
    have hphrase : Phrase .assignment ([⟨.symbol, x.text⟩] ++ ⟨.assign, "="⟩ :: e.tokens 0)
        (.node [.atom Tree.assignLabel, .atom x.text, e.reread.tree]) := .assignment htarget rfl hvalue
    exact hphrase.loosen (Nat.zero_le _)

/-- The target of an assignment is a name. -/
private theorem exists_name {t : Tree} {text : String} (shaped : Shaped t) (written : targetText t = .ok text) :
    ∃ x : Name, t = .atom x.text ∧ x.text = text := by
  unfold targetText at written
  split at written
  · next spelling =>
    split at written
    · cases written
    · next hliteral =>
      have hchars : ¬ isIntegerChars spelling.toList := hliteral
      simp only [atomText, hchars, if_false, Bool.false_eq_true] at written
      split at written
      · next hname =>
        cases shaped with
        | literal h => exact absurd h hliteral
        | symbol hsymbol => exact ⟨⟨spelling, hname, hsymbol⟩, rfl, Except.ok.inj written⟩
      · cases written
  · cases written

/-- The text of an assignment is that of its target and that of its value. -/
private theorem exists_of_assignment {target value : Tree} {p : String}
    (written : statement (.node [.atom Tree.assignLabel, target, value]) = .ok p) :
    ∃ name text, targetText target = .ok name ∧ emit value 0 = .ok text ∧ name ++ " = " ++ text = p := by
  simp only [statement_form, form_assign, expression_eq_emit] at written
  obtain ⟨name, htarget, written⟩ := exists_of_bind written
  obtain ⟨text, hvalue, written⟩ := exists_of_bind written
  exact ⟨name, text, htarget, hvalue, Except.ok.inj written⟩

theorem statement_assignment {x : Name} {e : Expr} (h : e.Proper) :
    statement (.node [.atom Tree.assignLabel, .atom x.text, e.tree]) = .ok (x.text ++ " = " ++ e.text 0) := by
  have hliteral : ¬ isIntegerLiteral x.text := x.not_isIntegerLiteral
  simp only [statement_form, form_assign, expression_eq_emit, Expr.emit_tree h, targetText, hliteral, x.atomText_text,
    if_false, Bool.false_eq_true]
  rfl

private theorem respelled_assignment (x : Name) (value : Tree) :
    (Tree.node [.atom Tree.assignLabel, .atom x.text, value]).respelled =
      .node [.atom Tree.assignLabel, .atom x.text, value.respelled] := by
  have hliteral : ¬ isIntegerLiteral x.text := x.not_isIntegerLiteral
  have hlabel : Tree.respelledText Tree.assignLabel = Tree.assignLabel := by decide
  have htarget : Tree.respelledText x.text = x.text := by rw [Tree.respelledText, if_neg hliteral]
  simp only [Tree.respelled, Tree.respelledAll, hlabel, htarget]

/-- A statement with a text is an expression, or an assignment of one to a name. -/
theorem expression_or_assignment {s : Tree} {p : String} (shaped : Shaped s)
    (flat : ∀ u : Tree, u.Below s → ¬ u.IsAssignment) (written : statement s = .ok p) :
    ¬ s.IsAssignment ∧ Expressible s ∧ emit s 0 = .ok p ∨
      ∃ (x : Name) (value : Tree) (text : String), s = .node [.atom Tree.assignLabel, .atom x.text, value] ∧
        Expressible value ∧ emit value 0 = .ok text ∧ p = x.text ++ " = " ++ text := by
  by_cases hassignment : s.IsAssignment
  · obtain ⟨target, value, rfl⟩ := hassignment
    obtain ⟨shapedTarget, shapedValue⟩ := Shaped.of_assignment shaped
    obtain ⟨name, text, htarget, hvalue, rfl⟩ := exists_of_assignment written
    obtain ⟨x, rfl, rfl⟩ := exists_name shapedTarget htarget
    have hflat : ∀ u, u = value ∨ u.Below value → ¬ u.IsAssignment := by
      rintro u (rfl | hbelow)
      · exact flat u (.member (by simp))
      · exact flat u (.deeper hbelow (by simp))
    exact .inr ⟨x, value, text, rfl, expressible_of_emit shapedValue hflat hvalue, hvalue, rfl⟩
  · rw [statement_eq_expression hassignment, expression_eq_emit] at written
    have hflat : ∀ u, u = s ∨ u.Below s → ¬ u.IsAssignment := by
      rintro u (rfl | hbelow)
      · exact hassignment
      · exact flat u hbelow
    exact .inl ⟨hassignment, expressible_of_emit shaped hflat written, written⟩

/-- The text of a statement is read as a tree with the same text. -/
private theorem exists_reading {s : Tree} {p : String} (shaped : Shaped s)
    (flat : ∀ u : Tree, u.Below s → ¬ u.IsAssignment) (written : statement s = .ok p) :
    ∃ tokens t, Renders tokens p.toList ∧ Phrase .statements tokens t ∧ statement t = .ok p ∧
      ((∀ u, u = s ∨ u.Below s → ¬ u.CallsNegative) → t = s.respelled) := by
  rcases expression_or_assignment shaped flat written with
    ⟨-, hexpressible, hwritten⟩ | ⟨x, value, text, rfl, hexpressible, hwritten, rfl⟩
  · obtain ⟨e, hproper, htree, htext, hplain⟩ := hexpressible.exists_expr
    cases (htext 0).symm.trans hwritten
    obtain ⟨tokens, hrenders, hphrase⟩ := exists_reading_of_expr hproper
    refine ⟨tokens, e.reread.tree, hrenders, hphrase, ?_, fun hnone => ?_⟩
    · rw [Expr.statement_tree hproper.reread, Expr.text_reread e (Nat.zero_le _)]
    · rw [Expr.reread_eq (hplain hnone), htree]
  · obtain ⟨e, hproper, htree, htext, hplain⟩ := hexpressible.exists_expr
    cases (htext 0).symm.trans hwritten
    obtain ⟨tokens, hrenders, hphrase⟩ := exists_reading_of_assignment x hproper
    refine ⟨tokens, _, hrenders, hphrase, ?_, fun hnone => ?_⟩
    · rw [statement_assignment hproper.reread, Expr.text_reread e (Nat.zero_le _)]
    · rw [Expr.reread_eq (hplain (Tree.forall_of_mem hnone (by simp))), htree]
      exact (respelled_assignment x value).symm

/-- A statement of an accepted text that has a text itself is accepted again, and what is read is written as before.  It
is the statement with its numbers respelled if it calls no negative number. -/
theorem statement_roundTrip [Runtime] {source p : String} {tree s : Tree}
    (accepted : (parser true).parse source = .ok tree) (mem : s ∈ tree.statements)
    (flat : ∀ u : Tree, u.Below s → ¬ u.IsAssignment) (written : statement s = .ok p) :
    (parser true).parse p = .error .nestedTooDeeply ∨
      ∃ t, (parser true).parse p = .ok t ∧ ofTree t = .ok p ∧ statement t = .ok p ∧
        ((∀ u : Tree, u = s ∨ u.Below s → ¬ u.CallsNegative) → t = s.respelled) := by
  obtain ⟨tokens, hrenders, hphrase⟩ := exists_of_parse accepted
  have shaped : Shaped s := (hphrase.shaped hrenders.lexeme_of_mem).of_mem_statements mem
  obtain ⟨tokens', t, hrenders', hphrase', hstatement, hrespelled⟩ := exists_reading shaped flat written
  rcases parse_of_renders true hrenders' hphrase' with hdeep | hparse
  · exact .inl hdeep
  · exact .inr ⟨t, hparse, ofTree_of_statement hstatement, hstatement, hrespelled⟩

/-- The tokens of `y=-(007-x)`. -/
def negatedDifference : List Token :=
  [⟨.symbol, "y"⟩, ⟨.assign, "="⟩, ⟨.minus, "-"⟩, ⟨.openParen, "("⟩, ⟨.number, "007"⟩, ⟨.minus, "-"⟩, ⟨.symbol, "x"⟩,
   ⟨.closeParen, ")"⟩]

/-- The tree of `negatedDifference`. -/
def negatedDifferenceTree : Tree :=
  .node [.atom "assign", .atom "y", .node [.atom "-", .node [.atom "-", .atom "007", .atom "x"]]]

private theorem renders_negatedDifference : Renders negatedDifference "y=-(007-x)".toList := by
  have hclose : Expr.Writes [⟨.closeParen, ")"⟩] [')'] := .mark .closeParen ')' (by decide) .nil
  have hy : Lexeme .symbol ['y'] := .symbol (by decide) (by simp)
  have hx : Lexeme .symbol ['x'] := .symbol (by decide) (by simp)
  have hseven : Lexeme .number ['0', '0', '7'] := .number (by decide)
  have hright := Expr.writes_minus ((Expr.Writes.lexeme hx).append hclose (Expr.apart_cons (by decide)))
  have hleft := (Expr.Writes.lexeme hseven).append hright (Expr.apart_cons (by decide))
  have hgroup := Expr.Writes.mark .openParen '(' (by decide) hleft
  have hvalue := Expr.Writes.mark .assign '=' (by decide) (Expr.writes_minus hgroup)
  exact ((Expr.Writes.lexeme hy).append hvalue (Expr.apart_cons (by decide))).renders

private theorem wholeExpression_negatedDifference :
    Parse.wholeExpression Parse.depthLimit (.initial negatedDifference) =
      .ok negatedDifferenceTree ⟨[.endOfInput], 8, []⟩ := rfl

private theorem parse_negatedDifference : (parser true).parse "y=-(007-x)" = .ok negatedDifferenceTree :=
  parse_of_wholeExpression true renders_negatedDifference (List.cons_ne_nil _ _) wholeExpression_negatedDifference rfl

private theorem statement_negatedDifferenceTree : statement negatedDifferenceTree = .ok "y = -(7 - x)" := by
  have hnumber : emit (.atom "007") 1 = .ok "7" := by
    rw [emit_form]
    rfl
  have hname : emit (.atom "x") 2 = .ok "x" := by
    rw [emit_form]
    rfl
  have hdifference : emit (.node [.atom Operator.sub.symbol, .atom "007", .atom "x"]) 3 = .ok "(7 - x)" := by
    rw [emit_form, form_binary]
    change (do
      let leftText ← emit (.atom "007") 1
      let rightText ← emit (.atom "x") 2
      return enclosed 1 3 (leftText ++ " " ++ Operator.sub.symbol ++ " " ++ rightText)) = _
    rw [hnumber, hname]
    rfl
  have hvalue : emit (.node [.atom Tree.negateLabel, .node [.atom Operator.sub.symbol, .atom "007", .atom "x"]]) 0 =
      .ok "-(7 - x)" := by
    rw [emit_form, form_negate]
    change (do
      let text ← emit (.node [.atom Operator.sub.symbol, .atom "007", .atom "x"]) 3
      return enclosed 3 0 ("-" ++ text)) = _
    rw [hdifference]
    rfl
  have hform : negatedDifferenceTree.form = .assign (.atom "y")
      (.node [.atom Tree.negateLabel, .node [.atom Operator.sub.symbol, .atom "007", .atom "x"]]) :=
    form_assign _ _
  simp only [statement_form, hform, expression_eq_emit, hvalue]
  rfl

theorem statement_roundTrip_negatedDifference :
    (parser true).parse "y=-(007-x)" = .ok negatedDifferenceTree ∧
      negatedDifferenceTree ∈ negatedDifferenceTree.statements ∧
      (∀ u : Tree, u.Below negatedDifferenceTree → ¬ u.IsAssignment) ∧
      statement negatedDifferenceTree = .ok "y = -(7 - x)" ∧
      ((parser true).parse "y = -(7 - x)" = .error .nestedTooDeeply ∨
        ∃ t, (parser true).parse "y = -(7 - x)" = .ok t ∧ ofTree t = .ok "y = -(7 - x)" ∧
          statement t = .ok "y = -(7 - x)" ∧
          ((∀ u : Tree, u = negatedDifferenceTree ∨ u.Below negatedDifferenceTree → ¬ u.CallsNegative) →
            t = negatedDifferenceTree.respelled)) := by
  have accepted := parse_negatedDifference
  have written := statement_negatedDifferenceTree
  have mem : negatedDifferenceTree ∈ negatedDifferenceTree.statements := by
    rw [statements_of_statement written]
    exact List.mem_singleton_self _
  have flat : ∀ u : Tree, u.Below negatedDifferenceTree → ¬ u.IsAssignment := by
    rintro u hbelow ⟨target, value, rfl⟩
    have hlabel : Tree.assignLabel ≠ "-" := by decide
    simp [negatedDifferenceTree, Tree.below_node_iff, Tree.not_below_atom, hlabel] at hbelow
  exact ⟨accepted, mem, flat, written, statement_roundTrip accepted mem flat written⟩

end Precedence.Script
