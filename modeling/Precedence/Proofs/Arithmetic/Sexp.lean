import Precedence.Proofs.Arithmetic.Building
import Precedence.Proofs.Tree.Sexp

/-!
# Symbolic expressions of arithmetic

The atoms of the trees that the arithmetic parser builds are numbers, symbols and tags (`Built.readable`).  None of them
has a space or a parenthesis in it, so the trees can be read back from their symbolic expressions (`ofSexp?_toSexp`).
-/

namespace Precedence.Arithmetic

open Precedence.Tree

/-! ### Atoms -/

/-- A literal consists of digits, with a minus sign before them or without it. -/
theorem eq_minus_or_isDigit {chars : List Char} (h : isIntegerChars chars) : ∀ c ∈ chars, c = '-' ∨ Text.isDigit c := by
  rcases isIntegerChars_cases h with hnumeral | ⟨digits, rfl, hnumeral⟩
  · exact fun c hc => .inr (isDigit_of_isNumeral hnumeral c hc)
  · exact List.forall_mem_cons.mpr ⟨.inl rfl, fun c hc => .inr (isDigit_of_isNumeral hnumeral c hc)⟩

theorem isPlainText_of_literal {text : String} (h : isIntegerLiteral text) : IsPlainText text := by
  have hne : text ≠ "" := by
    rintro rfl
    exact absurd h (by decide)
  exact isPlainText_of (fun c => c = '-' ∨ Text.isDigit c) hne (eq_minus_or_isDigit h) (by decide) (by decide)
    (by decide) (by decide)

theorem isWordChar_of_symbol {kind : Kind} {chars : List Char} (h : Lexeme kind chars) (hkind : kind = .symbol) :
    chars ≠ [] ∧ ∀ c ∈ chars, isWordChar c := by
  cases h with
  | number => exact absurd hkind (by decide)
  | symbol first more => exact ⟨List.cons_ne_nil _ _, List.forall_mem_cons.mpr ⟨first.1, more⟩⟩
  | mark h =>
    have hkinds : ∀ mark ∈ marks, mark.1 ≠ .symbol := by decide
    exact absurd hkind (hkinds _ h)

theorem isPlainText_of_symbol {text : String} (h : Lexeme .symbol text.toList) : IsPlainText text := by
  obtain ⟨hchars, hword⟩ := isWordChar_of_symbol h rfl
  have hne : text ≠ "" := by
    rintro rfl
    exact hchars rfl
  exact isPlainText_of (fun c => isWordChar c) hne hword (by decide) (by decide) (by decide) (by decide)

/-- The tags of the grammar. -/
def labels : List String := [negateLabel, assignLabel, sequenceLabel, "+", "*", "/"]

theorem readable_label {label : String} (h : label ∈ labels) : (Tree.atom label).Readable := by
  have hall : ∀ label ∈ labels, label ≠ "" ∧ label ≠ failedText ∧ label.toList.all isAtomChar := by decide
  obtain ⟨hempty, hfailed, hchars⟩ := hall label h
  exact readable_atom ⟨hempty, hfailed, List.all_eq_true.mp hchars⟩

/-! ### Trees -/

/-- The trees that the parser builds can be read back. -/
theorem Built.readable {incomplete : Prop} {t : Tree} (h : Built incomplete t) : t.Readable := by
  induction h with
  | failed =>
    rintro text (htext | hbelow)
    · cases htext
    · cases hbelow
  | atom h =>
    rcases h with hliteral | hsymbol
    · exact readable_atom (isPlainText_of_literal hliteral)
    · exact readable_atom (isPlainText_of_symbol hsymbol)
  | negation _ _ ih =>
    have hlabel : (Tree.atom negateLabel).Readable := readable_label (by decide)
    exact readable_node (by simp [hlabel, ih])
  | @binary op l r _ _ ihleft ihright =>
    have hlabel : (Tree.atom op.symbol).Readable := by
      cases op <;> exact readable_label (by decide)
    exact readable_node (by simp [hlabel, ihleft, ihright])
  | assignment _ _ ihleft ihright =>
    have hlabel : (Tree.atom assignLabel).Readable := readable_label (by decide)
    exact readable_node (by simp [hlabel, ihleft, ihright])
  | sequence _ ih =>
    have hlabel : (Tree.atom sequenceLabel).Readable := readable_label (by decide)
    exact readable_node (List.forall_mem_cons.mpr ⟨hlabel, ih⟩)
  | call _ _ ihcallee ihargument => exact readable_node (by simp [ihcallee, ihargument])

/-! ### Reading back -/

/-- A tree whose atoms can be told from what is around them is read back from its symbolic expression, so no other such
tree has this symbolic expression.  The trees that the parser builds are such trees, also where parts of them have
failed. -/
theorem ofSexp?_toSexp [Runtime] :
    (∀ t : Tree, t.Readable → ofSexp? t.toSexp = some t) ∧
      (∀ t u : Tree, t.Readable → u.Readable → t.toSexp = u.toSexp → t = u) ∧
      ∀ strict source result, (parser strict).parseResult source = .ok result → result.value.Readable := by
  refine ⟨fun t ht => ofSexp?_of_readable ht, ?_, ?_⟩
  · intro t u ht hu hsame
    have hread : some t = some u := by
      rw [← ofSexp?_of_readable ht, hsame, ofSexp?_of_readable hu]
    exact Option.some.inj hread
  · intro strict source result hresult
    exact (built_of_parseResult hresult).readable

/-- The report on `-`, where the operand is missing. -/
def missingNegated : Diagnostic :=
  ⟨.error, Diagnostic.unexpectedToken,
    "unexpected " ++ Parse.shown .endOfInput ++ " in " ++ "prefix" ++ " position", []⟩

theorem ofSexp?_toSexp_missingNegated :
    (parser false).parseResult "-" = .ok ⟨.node [.atom "-", .failed], [missingNegated], ""⟩ ∧
      (Tree.node [.atom "-", .failed]).Readable ∧ (Tree.node []).Readable ∧
      ofSexp? "(- <error>)" = some (.node [.atom "-", .failed]) ∧ ofSexp? "()" = some (.node []) ∧
      ((Tree.node [.atom "-", .failed]).toSexp = (Tree.node []).toSexp →
        Tree.node [.atom "-", .failed] = .node []) := by
  have hrenders : Renders [⟨.minus, "-"⟩] ['-'] := .mark (by decide) (.nil (List.forall_mem_nil _))
  have htokens : tokensOf rules "-".toList = .ok ([⟨.minus, "-"⟩], []) := tokensOf_eq_iff.mpr ⟨hrenders, nofun⟩
  rw [← parser_rules false] at htokens
  have hresult : (parser false).parseResult "-" = .ok ⟨.node [.atom "-", .failed], [missingNegated], ""⟩ :=
    parseResult_eq_ok_iff.mpr ⟨[⟨.minus, "-"⟩], [], ⟨[], 2, [missingNegated]⟩, htokens, rfl, rfl, rfl⟩
  have hsexp : (Tree.node [.atom "-", .failed]).toSexp = "(- <error>)" := by
    simp [toSexp, sexpChars, failedText]
  have hempty : (Tree.node []).toSexp = "()" := by
    simp [toSexp, sexpChars]
  obtain ⟨hread, hunique, hparsed⟩ := ofSexp?_toSexp
  have hreadable : (Tree.node [.atom "-", .failed]).Readable := hparsed false "-" _ hresult
  have hnone : (Tree.node []).Readable := readable_node (List.forall_mem_nil _)
  refine ⟨hresult, hreadable, hnone, ?_, ?_, hunique _ _ hreadable hnone⟩
  · rw [← hsexp]
    exact hread _ hreadable
  · rw [← hempty]
    exact hread _ hnone

end Precedence.Arithmetic
