import Precedence.Proofs.Arithmetic.Acceptance
import Precedence.Proofs.Arithmetic.Sequences
import Precedence.Proofs.Evaluation.BigStep

/-!
# Composition of programs

Two accepted programs with a separator between them are an accepted program, which runs the one and then the other
(`run_composition`).  The tree of the whole is not made of the two trees, since a sequence goes on with what follows it
while the statements after a separator begin anew.  What does compose is the list of statements: behind the first
program, each separator of the second one adds a statement to what has been read, as it does at the start of a text
(`Phrase.after`), and statements are run one by one (`runStatements_append`).
-/

namespace Precedence

namespace Tree

variable [Runtime]

/-! ### Runs of several statements -/

/-- To run statements and others after them is to run the others in what the first ones leave behind. -/
theorem runStatements_append (result : Value) (memory : Memory) (ts us : List Tree) :
    runStatements result memory (ts ++ us) =
      (runStatements result memory ts).andThen fun result memory => runStatements result memory us := by
  induction ts generalizing result memory with
  | nil => rfl
  | cons t ts ih =>
    rw [List.cons_append, runStatements, runStatements]
    rcases t.value memory with ⟨error | value, after⟩
    · rfl
    · exact ih _ after

/-- The result of statements does not depend on what was before them if there are any. -/
theorem runStatements_of_ne_nil {us : List Tree} (hne : us ≠ []) (result other : Value) (memory : Memory) :
    runStatements result memory us = runStatements other memory us := by
  cases us with
  | nil => exact (hne rfl).elim
  | cons u us => rw [runStatements, runStatements]

/-- A program whose statements are those of two others runs the one and then the other. -/
theorem run_of_statements_eq_append {t first second : Tree} (h : t.statements = first.statements ++ second.statements)
    (hne : second.statements ≠ []) (memory : Memory) :
    t.run memory = (first.run memory).andThen fun _ memory => second.run memory := by
  rw [run, run, h, runStatements_append]
  congr 1
  funext result memory
  exact runStatements_of_ne_nil hne result .none memory

end Tree

namespace Arithmetic

/-! ### Statements of phrases -/

/-- A phrase stands for at least one statement. -/
theorem Phrase.statements_ne_nil {category : Category} {u : List Token} {t : Tree} (h : Phrase category u t) :
    t.statements ≠ [] := by
  have hnone : ∀ {t : Tree}, t.sequenceMembers? = none → t.statements ≠ [] := fun h =>
    Tree.statements_of_no_sequence h ▸ List.cons_ne_nil _ _
  induction h with
  | number | symbol => exact hnone rfl
  | group _ _ _ ih | positive _ _ ih | looser _ ih => exact ih
  | negative => exact hnone (Tree.sequenceMembers?_negated _)
  | @call _ _ _ _ callee argument _ _ _ _ _ ih =>
    -- a call is a sequence if it calls the symbol that is the tag of sequences
    cases hmembers : (Tree.node [callee, argument]).sequenceMembers? with
    | none => exact hnone hmembers
    | some members =>
      rw [Tree.statements_of_sequenceMembers? hmembers]
      cases Tree.eq_of_sequenceMembers? hmembers
      exact ih
  | @term op | @sum op => exact hnone (Tree.sequenceMembers?_node (by cases op <;> decide) _)
  | assignment => exact hnone (Tree.sequenceMembers?_node (by decide) _)
  | sequence _ _ _ ih =>
    rw [Tree.statements_sequence, Tree.statementsOf_append, Tree.statementsOf_listed]
    exact List.append_ne_nil_of_left_ne_nil ih _
  | trailing _ _ ih =>
    rw [Tree.statements_sequence, Tree.statementsOf_listed]
    exact ih

/-- A phrase of statements that does not end with a separator is one without a separator at the end. -/
theorem Phrase.sequence_of_append {category : Category} {u tokens : List Token} {last : Token} {t : Tree}
    (h : Phrase category u t) (hcategory : category = .statements) (hu : u = tokens ++ [last])
    (hlast : last.kind ≠ .sequence) : Phrase .sequence u t := by
  induction h with
  | trailing left kind =>
    obtain ⟨-, heq⟩ := List.append_inj' hu rfl
    cases heq
    exact (hlast kind).elim
  | @looser category _ _ phrase ih =>
    cases category with
    | statements => exact ih rfl hu
    | sequence => exact phrase
    | _ => cases hcategory
  | _ => cases hcategory

/-- What follows a separator is added to the statements before it. -/
theorem Phrase.after {category : Category} {u v : List Token} {separator : Token} {first t : Tree}
    (hfirst : Phrase .sequence u first) (hkind : separator.kind = .sequence) (h : Phrase category v t)
    (hcategory : category = .sequence ∨ category = .statements) :
    ∃ whole, Phrase category (u ++ separator :: v) whole ∧ whole.statements = first.statements ++ t.statements := by
  induction h with
  | @sequence token v w l r left kind right ih =>
    obtain ⟨whole, hphrase, hstatements⟩ := ih (.inl rfl)
    have hmore := Phrase.sequence hphrase kind right
    rw [List.append_assoc, List.cons_append] at hmore
    refine ⟨_, hmore, ?_⟩
    simp only [Tree.statements_sequence, Tree.statementsOf_append, Tree.statementsOf_listed, hstatements,
      List.append_assoc]
  | @trailing token v t left kind ih =>
    obtain ⟨whole, hphrase, hstatements⟩ := ih (.inl rfl)
    have hmore := Phrase.trailing hphrase kind
    rw [List.append_assoc, List.cons_append] at hmore
    refine ⟨_, hmore, ?_⟩
    simp only [Tree.statements_sequence, Tree.statementsOf_listed, hstatements]
  | @looser category v t phrase ih =>
    cases category with
    | statements =>
      obtain ⟨whole, hphrase, hstatements⟩ := ih (.inr rfl)
      exact ⟨whole, hphrase.looser, hstatements⟩
    | sequence =>
      obtain ⟨whole, hphrase, hstatements⟩ := ih (.inl rfl)
      exact ⟨whole, hphrase.looser, hstatements⟩
    | assignment =>
      refine ⟨_, .sequence hfirst hkind phrase, ?_⟩
      rw [Tree.statements_sequence, Tree.statementsOf_append, Tree.statementsOf_listed]
      rfl
    | _ => rcases hcategory with h | h <;> cases h
  | _ => rcases hcategory with h | h <;> cases h

/-! ### Texts -/

/-- The token that separates statements. -/
def separator : Token := ⟨.sequence, ";"⟩

/-- Renderings with a separator between them are a rendering. -/
theorem Renders.separated {tokens others : List Token} {text rest : List Char} (h : Renders tokens text)
    (hrest : Renders others rest) : Renders (tokens ++ separator :: others) (text ++ ';' :: rest) := by
  have hseparator : Renders (separator :: others) (';' :: rest) := .mark (by decide) hrest
  refine h.append hseparator fun kind c hc => ?_
  cases hc
  simp [runsOn, show Text.isDigit ';' = false by decide, show isWordChar ';' = false by decide]

/-- Two accepted programs with a separator between them are accepted as a program, unless it is nested too deeply, if
the first one does not end with a separator itself.  It has the statements of both, and it runs the one and then the
other, in the memory that the first one leaves behind. -/
theorem run_composition [Runtime] {a b : String} {first second : Tree} {lexed : Lexed} {tokens : List Token}
    {last : Token} (hfirst : (parser true).parse a = .ok first) (hsecond : (parser true).parse b = .ok second)
    (hlex : (parser true).lex a = .ok lexed) (htokens : lexed.tokens = tokens ++ [last, .endOfInput])
    (hlast : last.kind ≠ .sequence) :
    (parser true).parse (a ++ ";" ++ b) = .error .nestedTooDeeply ∨
      ∃ whole, (parser true).parse (a ++ ";" ++ b) = .ok whole ∧
        whole.statements = first.statements ++ second.statements ∧
        ∀ memory, whole.run memory = (first.run memory).andThen fun _ memory => second.run memory := by
  obtain ⟨u, hrenders, hphrase⟩ := exists_of_parse hfirst
  obtain ⟨v, hrenders', hphrase'⟩ := exists_of_parse hsecond
  have hu : u = tokens ++ [last] := by
    cases hlex.symm.trans (lex_of_tokensOf true (tokensOf_of_renders hrenders hphrase))
    exact List.append_cancel_right (htokens.trans (List.append_assoc tokens [last] [.endOfInput]).symm)
  have hseparator : separator.kind = .sequence := rfl
  obtain ⟨whole, hwhole, hstatements⟩ :=
    (hphrase.sequence_of_append rfl hu hlast).after hseparator hphrase' (.inr rfl)
  have htext : Renders (u ++ separator :: v) (a ++ ";" ++ b).toList := by
    simpa using hrenders.separated hrenders'
  rcases parse_of_renders true htext hwhole with hdeep | hparse
  · exact .inl hdeep
  · exact .inr ⟨whole, hparse, hstatements, Tree.run_of_statements_eq_append hstatements hphrase'.statements_ne_nil⟩

/-- The tokens of `x=2`. -/
def assignedTwo : List Token := [⟨.symbol, "x"⟩, ⟨.assign, "="⟩, ⟨.number, "2"⟩]

/-- The tree of `x=2`. -/
def assignedTwoTree : Tree := .node [.atom "assign", .atom "x", .atom "2"]

/-- The tokens of `echo(x);`. -/
def echoedName : List Token :=
  [⟨.symbol, "echo"⟩, ⟨.openParen, "("⟩, ⟨.symbol, "x"⟩, ⟨.closeParen, ")"⟩, ⟨.sequence, ";"⟩]

/-- The tree of `echo(x);`. -/
def echoedNameTree : Tree := .node [.atom "sequence", .node [.atom "echo", .atom "x"]]

private theorem renders_assignedTwo : Renders assignedTwo "x=2".toList := by
  have htwo : Lexeme .number ['2'] := .number (by decide)
  have hx : Lexeme .symbol ['x'] := .symbol (by decide) nofun
  have hnumber : Renders [⟨.number, "2"⟩] ['2'] := (Renders.nil (List.forall_mem_nil _)).lexeme htwo (by simp)
  have hvalue : Renders [⟨.assign, "="⟩, ⟨.number, "2"⟩] ['=', '2'] := .mark (by decide) hnumber
  have hall : Renders assignedTwo ['x', '=', '2'] := hvalue.lexeme hx (by simp [show isWordChar '=' = false by decide])
  exact hall

private theorem renders_echoedName : Renders echoedName "echo(x);".toList := by
  have hx : Lexeme .symbol ['x'] := .symbol (by decide) nofun
  have hecho : Lexeme .symbol ['e', 'c', 'h', 'o'] := .symbol (by decide) (List.all_eq_true.mp (by decide))
  have hclose : Renders [⟨.closeParen, ")"⟩, ⟨.sequence, ";"⟩] [')', ';'] :=
    .mark (by decide) (.mark (by decide) (.nil (List.forall_mem_nil _)))
  have hargument : Renders [⟨.openParen, "("⟩, ⟨.symbol, "x"⟩, ⟨.closeParen, ")"⟩, ⟨.sequence, ";"⟩]
      ['(', 'x', ')', ';'] :=
    .mark (by decide) (hclose.lexeme hx (by simp [show isWordChar ')' = false by decide]))
  have hall : Renders echoedName ['e', 'c', 'h', 'o', '(', 'x', ')', ';'] :=
    hargument.lexeme hecho (by simp [show isWordChar '(' = false by decide])
  exact hall

theorem run_composition_assignedTwo :
    (parser true).parse "x=2" = .ok assignedTwoTree ∧ (parser true).parse "echo(x);" = .ok echoedNameTree ∧
      (parser true).lex "x=2" = .ok ⟨assignedTwo ++ [.endOfInput], "", []⟩ ∧ Kind.number ≠ .sequence ∧
      ∃ whole, (parser true).parse ("x=2" ++ ";" ++ "echo(x);") = .ok whole ∧
        whole.statements = assignedTwoTree.statements ++ echoedNameTree.statements ∧
        ∀ memory, whole.run memory =
          (assignedTwoTree.run memory).andThen fun _ memory => echoedNameTree.run memory := by
  have hfirst : (parser true).parse "x=2" = .ok assignedTwoTree :=
    parse_of_wholeExpression true renders_assignedTwo (List.cons_ne_nil _ _) rfl rfl
  have hsecond : (parser true).parse "echo(x);" = .ok echoedNameTree :=
    parse_of_wholeExpression true renders_echoedName (List.cons_ne_nil _ _) rfl rfl
  have hlex : (parser true).lex "x=2" = .ok ⟨assignedTwo ++ [.endOfInput], "", []⟩ :=
    lex_of_tokensOf true (tokensOf_eq_iff.mpr ⟨renders_assignedTwo, nofun⟩)
  have hlast : Kind.number ≠ .sequence := by decide
  have htokens : assignedTwo ++ [.endOfInput] =
      [⟨.symbol, "x"⟩, ⟨.assign, "="⟩] ++ [(⟨.number, "2"⟩ : Token), .endOfInput] := rfl
  have hrenders : Renders (assignedTwo ++ separator :: echoedName) ("x=2" ++ ";" ++ "echo(x);").toList :=
    renders_assignedTwo.separated renders_echoedName
  have hwhole : (parser true).parse ("x=2" ++ ";" ++ "echo(x);") = .ok (.node [.atom "sequence", assignedTwoTree,
      .node [.atom "echo", .atom "x"]]) :=
    parse_of_wholeExpression true hrenders (List.cons_ne_nil _ _) rfl rfl
  refine ⟨hfirst, hsecond, hlex, hlast, ?_⟩
  rcases run_composition hfirst hsecond hlex htokens hlast with hdeep | hcomposed
  · cases hwhole.symm.trans hdeep
  · exact hcomposed

end Arithmetic

end Precedence
