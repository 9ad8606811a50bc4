import Precedence.Proofs.Arithmetic.Acceptance
import Precedence.Proofs.Arithmetic.Shape
import Precedence.Proofs.Evaluation.BigStep

/-!
# Negation of programs

A minus sign before an accepted program in parentheses negates what the program gives (`parse_negation`).  The tree of
an integer literal is negated by its spelling, before there is anything to evaluate, and any other tree by a node around
it.  Either way the evaluation is that of the tree, and then of the negation (`value_negated`): a toggled sign is the
opposite number, and it leaves the number of digits that may be too many as it is.
-/

namespace Precedence

/-- The outcome with its value negated. -/
def Outcome.negated (outcome : Outcome) : Outcome := outcome.andThen fun value memory => (value.negate, memory)

namespace Outcome

/-- An error is reported the same if there is a negation to come.  A negation itself fails with a plain error only. -/
theorem reported_negated [Runtime] (outcome : Outcome) : outcome.negated.reported = outcome.reported.negated := by
  rcases outcome with ⟨error | value, memory⟩
  · rfl
  show reported (value.negate, memory) = (value.negate, memory)
  cases hnegate : value.negate with
  | error error => rw [reported, (isPlain_of_negate hnegate).reported_eq]
  | ok negative => rfl

end Outcome

namespace Tree

/-- The node of a negation evaluates to the negation of its operand. -/
theorem bigStep_negation (t : Tree) (memory : Memory) :
    (node [atom negateLabel, t]).bigStep memory = (t.bigStep memory).negated := by
  rw [bigStep_form]
  rfl

/-- A literal with its sign toggled evaluates to the negation of what it evaluates to. -/
theorem atomOutcome_toggleSign {text : String} (h : isIntegerLiteral text) (memory : Memory) :
    atomOutcome (String.ofList (toggleSign text.toList)) memory = (atomOutcome text memory).negated := by
  rw [atomOutcome, atomOutcome, if_pos h, if_pos (isIntegerLiteral_toggleSign h), String.toList_ofList,
    literalDigits_toggleSign h, literalValue_toggleSign h]
  simp only
  split <;> rfl

theorem bigStep_negated (t : Tree) (memory : Memory) : t.negated.bigStep memory = (t.bigStep memory).negated := by
  cases t with
  | failed => exact bigStep_negation failed memory
  | node members => exact bigStep_negation (node members) memory
  | atom text =>
    by_cases hliteral : isIntegerLiteral text
    · rw [negated, if_pos hliteral, bigStep, bigStep]
      exact atomOutcome_toggleSign hliteral memory
    · rw [negated, if_neg hliteral]
      exact bigStep_negation (atom text) memory

/-- The negation of a tree evaluates to the negation of its value, with the same error if it has none, and it leaves the
same memory behind. -/
theorem value_negated [Runtime] (t : Tree) (memory : Memory) : t.negated.value memory = (t.value memory).negated := by
  rw [value_eq_reported, value_eq_reported, bigStep_negated, Outcome.reported_negated]

/-- The negation of the negation of a literal is the literal. -/
theorem negated_negated {text : String} (h : isIntegerLiteral text) : (atom text).negated.negated = atom text := by
  rw [negated, if_pos h, negated, if_pos (isIntegerLiteral_toggleSign h), String.toList_ofList,
    toggleSign_toggleSign h, String.ofList_toList]

end Tree

namespace Arithmetic

/-! ### Texts -/

/-- The tokens of a negation, with its operand in parentheses. -/
def negation (tokens : List Token) : List Token :=
  ⟨.minus, "-"⟩ :: ⟨.openParen, "("⟩ :: (tokens ++ [⟨.closeParen, ")"⟩])

theorem Phrase.negation {tokens : List Token} {t : Tree} (h : Phrase .statements tokens t) :
    Phrase .statements (negation tokens) t.negated := by
  have hgroup : Phrase .primary (⟨.openParen, "("⟩ :: (tokens ++ [⟨.closeParen, ")"⟩])) t := .group rfl h rfl
  have hoperand : Phrase .unary (⟨.openParen, "("⟩ :: (tokens ++ [⟨.closeParen, ")"⟩])) t := hgroup.loosen (by decide)
  exact (Phrase.negative rfl hoperand).loosen (by decide)

theorem Renders.negation {tokens : List Token} {source : String} (h : Renders tokens source.toList) :
    Renders (negation tokens) ("-(" ++ source ++ ")").toList := by
  have hend : Renders [] [] := .nil (List.forall_mem_nil _)
  have hoperand : Renders (tokens ++ [⟨.closeParen, ")"⟩]) (source.toList ++ [')']) := h.append_mark (by decide) hend
  have hall : Renders (Arithmetic.negation tokens) ('-' :: '(' :: (source.toList ++ [')'])) :=
    .mark (by decide) (.mark (by decide) hoperand)
  simpa using hall

/-- A minus sign before a rendering in parentheses negates the tree, unless the text is nested too deeply. -/
theorem parse_of_renders_negation [Runtime] {tokens : List Token} {source : String} {t : Tree}
    (hrenders : Renders tokens source.toList) (hphrase : Phrase .statements tokens t) :
    (parser true).parse ("-(" ++ source ++ ")") = .error .nestedTooDeeply ∨
      (parser true).parse ("-(" ++ source ++ ")") = .ok t.negated :=
  parse_of_renders true hrenders.negation hphrase.negation

/-- A minus sign before an accepted program in parentheses makes an accepted program, unless it is nested too deeply.
The program evaluates to the negation of the value, or to the error if there is no value, and leaves behind what the
other one does.  A second minus sign gives back the tree of an integer literal. -/
theorem parse_negation [Runtime] {source : String} {t : Tree} (h : (parser true).parse source = .ok t) :
    ((parser true).parse ("-(" ++ source ++ ")") = .error .nestedTooDeeply ∨
        ∃ negative, (parser true).parse ("-(" ++ source ++ ")") = .ok negative ∧
          ∀ memory, negative.value memory = (t.value memory).andThen fun value memory => (value.negate, memory)) ∧
      ∀ text, t = .atom text → isIntegerLiteral text →
        (parser true).parse ("-(-(" ++ source ++ "))") = .error .nestedTooDeeply ∨
          (parser true).parse ("-(-(" ++ source ++ "))") = .ok t := by
  obtain ⟨tokens, hrenders, hphrase⟩ := exists_of_parse h
  constructor
  · rcases parse_of_renders_negation hrenders hphrase with hdeep | hparse
    · exact .inl hdeep
    · exact .inr ⟨t.negated, hparse, t.value_negated⟩
  · rintro text rfl hliteral
    have htext : "-(-(" ++ source ++ "))" = "-(" ++ ("-(" ++ source ++ ")") ++ ")" := by
      simp [← String.toList_inj]
    have htwice := parse_of_renders_negation hrenders.negation hphrase.negation
    rwa [Tree.negated_negated hliteral, ← htext] at htwice

/-- The tokens of `-0`. -/
def minusZero : List Token := [⟨.minus, "-"⟩, ⟨.number, "0"⟩]

private theorem renders_minusZero : Renders minusZero "-0".toList := by
  have hzero : Renders [⟨.number, "0"⟩] ['0'] :=
    (Renders.nil (List.forall_mem_nil _)).lexeme (.number (by decide)) (by simp)
  have hall : Renders minusZero ['-', '0'] := .mark (by decide) hzero
  exact hall

/-- The spelling of zero with a sign is kept: `-(-(-0))` is `-0` again. -/
theorem parse_negation_minusZero :
    (parser true).parse "-0" = .ok (.atom "-0") ∧ isIntegerLiteral "-0" ∧
      (∀ memory, (Tree.atom "0").value memory =
        ((Tree.atom "-0").value memory).andThen fun value memory => (value.negate, memory)) ∧
      (parser true).parse "-(-(-0))" = .ok (.atom "-0") := by
  have hparse : (parser true).parse "-0" = .ok (.atom "-0") :=
    parse_of_wholeExpression true renders_minusZero (List.cons_ne_nil _ _) rfl rfl
  have hliteral : isIntegerLiteral "-0" := by decide
  have honce : (parser true).parse ("-(" ++ "-0" ++ ")") = .ok (.atom "0") :=
    parse_of_wholeExpression true renders_minusZero.negation (List.cons_ne_nil _ _) rfl rfl
  have htwice : (parser true).parse ("-(" ++ ("-(" ++ "-0" ++ ")") ++ ")") = .ok (.atom "-0") :=
    parse_of_wholeExpression true renders_minusZero.negation.negation (List.cons_ne_nil _ _) rfl rfl
  obtain ⟨hnegative, hdouble⟩ := parse_negation hparse
  refine ⟨hparse, hliteral, ?_, ?_⟩
  · rcases hnegative with hdeep | ⟨negative, hnegative, hvalue⟩
    · cases honce.symm.trans hdeep
    · cases honce.symm.trans hnegative
      exact hvalue
  · rcases hdouble "-0" rfl hliteral with hdeep | hback
    · cases htwice.symm.trans hdeep
    · exact hback

end Arithmetic

end Precedence
