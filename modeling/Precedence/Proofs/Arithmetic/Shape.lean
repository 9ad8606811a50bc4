import Precedence.Proofs.Arithmetic.Phrase
import Precedence.Proofs.Arithmetic.Rendering
import Precedence.Proofs.Number.Decimal
import Precedence.Proofs.Tree.Statements

/-!
# The trees of texts

What the tree of a text looks like: `Shaped` lists the nodes that phrases are read as.  A phrase of lexemes has such a
tree (`Phrase.shaped`), and so does every statement of it (`Shaped.of_mem_statements`).
-/

namespace Precedence.Arithmetic

/-- The trees of phrases.  The operand of a negation is no integer literal, since the literal is negated instead. -/
inductive Shaped : Tree → Prop
  | literal {text : String} (h : isIntegerLiteral text) : Shaped (.atom text)
  | symbol {text : String} (h : Lexeme .symbol text.toList) : Shaped (.atom text)
  | negation {t : Tree} (operand : Shaped t) (folded : ∀ text, t = .atom text → ¬ isIntegerLiteral text) :
      Shaped (.node [.atom Tree.negateLabel, t])
  | binary {op : Operator} {l r : Tree} (left : Shaped l) (right : Shaped r) :
      Shaped (.node [.atom op.symbol, l, r])
  | assignment {l r : Tree} (left : Shaped l) (right : Shaped r) : Shaped (.node [.atom Tree.assignLabel, l, r])
  | sequence {members : List Tree} (all : ∀ t ∈ members, Shaped t) :
      Shaped (.node (.atom Tree.sequenceLabel :: members))
  | call {f a : Tree} (callee : Shaped f) (argument : Shaped a) : Shaped (.node [f, a])

/-- The negation of a tree is an integer literal, or a node of an operand that is none. -/
theorem negated_cases (t : Tree) :
    (∃ text, t.negated = .atom text ∧ isIntegerLiteral text) ∨
      t.negated = .node [.atom Tree.negateLabel, t] ∧ ∀ text, t = .atom text → ¬ isIntegerLiteral text := by
  unfold Tree.negated
  split
  · next text =>
    split
    · next hliteral => exact .inl ⟨_, rfl, isIntegerLiteral_toggleSign hliteral⟩
    · next hsymbol =>
      refine .inr ⟨rfl, fun other hother => ?_⟩
      cases hother
      exact hsymbol
  · next hnode => exact .inr ⟨rfl, fun text htext => absurd htext (hnode text)⟩

theorem Shaped.negated {t : Tree} (h : Shaped t) : Shaped t.negated := by
  rcases negated_cases t with ⟨text, hnegated, hliteral⟩ | ⟨hnegated, hsymbol⟩
  · rw [hnegated]
    exact .literal hliteral
  · rw [hnegated]
    exact .negation h hsymbol

/-- The members of a sequence have the shape of its statements. -/
theorem Shaped.of_mem_sequence {members : List Tree} (h : Shaped (.node (.atom Tree.sequenceLabel :: members))) :
    ∀ t ∈ members, Shaped t := by
  generalize hlabel : Tree.sequenceLabel = label at h
  cases h with
  | negation => exact absurd hlabel (by decide)
  | @binary op => cases op <;> exact absurd hlabel (by decide)
  | assignment => exact absurd hlabel (by decide)
  | sequence all => exact all
  | call _ argument => simpa using argument

theorem Shaped.of_assignment {l r : Tree} (h : Shaped (.node [.atom Tree.assignLabel, l, r])) :
    Shaped l ∧ Shaped r := by
  generalize hlabel : Tree.assignLabel = label at h
  cases h with
  | @binary op => cases op <;> exact absurd hlabel (by decide)
  | assignment left right => exact ⟨left, right⟩
  | sequence => exact absurd hlabel (by decide)

theorem Shaped.listed {t : Tree} (h : Shaped t) : ∀ s ∈ t.listed, Shaped s := by
  unfold Tree.listed
  split
  · split
    · next hlabel =>
      subst hlabel
      exact h.of_mem_sequence
    · simpa using h
  · simpa using h

theorem isNumeral_of_lexeme {kind : Kind} {chars : List Char} (h : Lexeme kind chars) (hkind : kind = .number) :
    isNumeral chars := by
  cases h with
  | number digits => exact digits
  | symbol => exact absurd hkind (by decide)
  | mark h =>
    have hkinds : ∀ mark ∈ marks, mark.1 ≠ .number := by decide
    exact absurd hkind (hkinds _ h)

private theorem exists_cons_of_lexeme {kind : Kind} {chars : List Char} (h : Lexeme kind chars)
    (hkind : kind = .symbol) : ∃ c rest, chars = c :: rest ∧ isWordChar c ∧ ¬ Text.isDigit c := by
  cases h with
  | number => exact absurd hkind (by decide)
  | @symbol c rest first => exact ⟨c, rest, rfl, first⟩
  | mark h =>
    have hkinds : ∀ mark ∈ marks, mark.1 ≠ .symbol := by decide
    exact absurd hkind (hkinds _ h)

/-- A symbol is no integer literal. -/
theorem not_isIntegerChars_of_symbol {chars : List Char} (h : Lexeme .symbol chars) : ¬ isIntegerChars chars := by
  obtain ⟨c, rest, rfl, hword, hdigit⟩ := exists_cons_of_lexeme h rfl
  have hc : c ≠ '-' := by
    rintro rfl
    exact absurd hword (by decide)
  simp [isIntegerChars, literalDigits, isNumeral, hc, hdigit]

theorem not_symbol_negateLabel : ¬ Lexeme .symbol Tree.negateLabel.toList := by
  intro h
  obtain ⟨c, rest, hchars, hword, -⟩ := exists_cons_of_lexeme h rfl
  have hc : '-' = c := congrArg (·.headD ' ') hchars
  subst hc
  exact absurd hword (by decide)

/-- The tree of a phrase of lexemes. -/
theorem Phrase.shaped {category : Category} {tokens : List Token} {t : Tree} (h : Phrase category tokens t)
    (lexemes : ∀ token ∈ tokens, Lexeme token.kind token.value.toList) : Shaped t := by
  induction h with
  | @number token kind =>
    exact .literal (isIntegerChars_of_isNumeral (isNumeral_of_lexeme (lexemes token List.mem_cons_self) kind))
  | @symbol token kind =>
    have hlexeme := lexemes token List.mem_cons_self
    rw [kind] at hlexeme
    exact .symbol hlexeme
  | group opens _ closes ih =>
    simp only [List.forall_mem_cons, List.forall_mem_append] at lexemes
    exact ih lexemes.2.1
  | call _ opens _ closes ihcallee ihargument =>
    simp only [List.forall_mem_cons, List.forall_mem_append] at lexemes
    exact .call (ihcallee lexemes.1) (ihargument lexemes.2.2.1)
  | positive kind _ ih =>
    exact ih fun token hmem => lexemes token (List.mem_cons_of_mem _ hmem)
  | negative kind _ ih =>
    exact (ih fun token hmem => lexemes token (List.mem_cons_of_mem _ hmem)).negated
  | term _ _ kind _ ihleft ihright | sum _ _ kind _ ihleft ihright =>
    simp only [List.forall_mem_cons, List.forall_mem_append] at lexemes
    exact .binary (ihleft lexemes.1) (ihright lexemes.2.2)
  | assignment _ kind _ ihleft ihright =>
    simp only [List.forall_mem_cons, List.forall_mem_append] at lexemes
    exact .assignment (ihleft lexemes.1) (ihright lexemes.2.2)
  | sequence _ kind _ ihleft ihright =>
    simp only [List.forall_mem_cons, List.forall_mem_append] at lexemes
    exact .sequence (List.forall_mem_append.mpr ⟨(ihleft lexemes.1).listed, by simpa using ihright lexemes.2.2⟩)
  | trailing _ kind ih =>
    simp only [List.forall_mem_append] at lexemes
    exact .sequence (ih lexemes.1).listed
  | looser _ ih => exact ih lexemes

theorem Renders.lexeme_of_mem {tokens : List Token} {text : List Char} (h : Renders tokens text) :
    ∀ token ∈ tokens, Lexeme token.kind token.value.toList := by
  induction h with
  | nil => simp
  | cons _ written _ _ ih => exact List.forall_mem_cons.mpr ⟨by simpa using written, ih⟩

/-- The statements of a tree have its shape. -/
theorem Shaped.of_mem_statements {t s : Tree} (h : Shaped t) (hs : s ∈ t.statements) : Shaped s :=
  Tree.forall_statements h (fun _ => Shaped.of_mem_sequence) s hs

end Precedence.Arithmetic
