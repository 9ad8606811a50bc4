import Precedence.Proofs.Arithmetic.Recognition
import Precedence.Proofs.Arithmetic.Rendering
import Precedence.Proofs.Parse.Result

/-!
# Acceptance of texts

The strict parser of the arithmetic grammar gives a tree only for a rendering of statements (`exists_of_parse`), and it
gives the tree of the statements for every rendering of them that is not nested too deeply (`parse_of_renders`).
-/

namespace Precedence.Arithmetic

theorem Lexeme.kind_mem {kind : Kind} {lexeme : List Char} (h : Lexeme kind lexeme) : kind ∈ Kind.arithmetic := by
  cases h with
  | number => decide
  | symbol => decide
  | mark h =>
    have hall : ∀ mark ∈ marks, mark.1 ∈ Kind.arithmetic := by decide
    exact hall _ h

theorem Renders.kind_mem {tokens : List Token} {text : List Char} (h : Renders tokens text) :
    ∀ token ∈ tokens, token.kind ∈ Kind.arithmetic := by
  induction h with
  | nil => simp
  | cons _ written _ _ ih => exact List.forall_mem_cons.mpr ⟨written.kind_mem, ih⟩

/-! ### Texts and phrases -/

theorem lex_of_tokensOf (strict : Bool) {source : String} {tokens : List Token}
    (h : tokensOf rules source.toList = .ok (tokens, [])) :
    (parser strict).lex source = .ok ⟨tokens ++ [.endOfInput], "", []⟩ := by
  rw [Parser.lex, parser_rules, lex, h]
  rfl

/-- A rendering of statements is cut into their tokens. -/
theorem tokensOf_of_renders {text : List Char} {tokens : List Token} {tree : Tree} (hrenders : Renders tokens text)
    (hphrase : Phrase .statements tokens tree) : tokensOf rules text = .ok (tokens, []) := by
  refine tokensOf_eq_iff.mpr ⟨hrenders, ?_⟩
  obtain ⟨token, rest, rfl, -⟩ := hphrase.exists_cons
  simp

variable [Runtime]

/-- A rendering is parsed as its tokens are if nothing is reported. -/
theorem parse_of_wholeExpression (strict : Bool) {source : String} {tokens : List Token} {value : Tree}
    {context : Context} (hrenders : Renders tokens source.toList) (hne : tokens ≠ [])
    (hrun : Parse.wholeExpression Parse.depthLimit (.initial tokens) = .ok value context)
    (hclean : context.diagnostics = []) : (parser strict).parse source = .ok value := by
  have htokens := tokensOf_eq_iff.mpr ⟨hrenders, (absurd · hne)⟩
  rw [← parser_rules strict] at htokens
  exact parse_of_tokensOf htokens hrun hclean

/-- A text that the strict parser accepts is a rendering of statements with the tree. -/
theorem exists_of_parse {source : String} {tree : Tree} (h : (parser true).parse source = .ok tree) :
    ∃ tokens, Renders tokens source.toList ∧ Phrase .statements tokens tree := by
  obtain ⟨result, hresult, hok, rfl⟩ := exists_parseResult rfl h
  obtain ⟨tokens, context, htokens, hrun, hclean, -, -⟩ := exists_of_parseResult hresult hok
  rw [parser_rules] at htokens
  have hrenders := (tokensOf_eq_iff.mp htokens).1
  exact ⟨tokens, hrenders, phrase_of_wholeExpression hrenders.kind_mem hrun hclean⟩

/-- A rendering of statements is accepted with their tree, unless it is nested too deeply. -/
theorem parse_of_renders (strict : Bool) {source : String} {tokens : List Token} {tree : Tree}
    (hrenders : Renders tokens source.toList) (hphrase : Phrase .statements tokens tree) :
    (parser strict).parse source = .error .nestedTooDeeply ∨ (parser strict).parse source = .ok tree := by
  have htokens := tokensOf_of_renders hrenders hphrase
  rw [← parser_rules strict] at htokens
  rcases hphrase.settles_wholeExpression.ok_or_error Parse.depthLimit with hok | ⟨context, herror⟩
  · exact .inr (parse_of_tokensOf htokens hok rfl)
  · exact .inl (parse_nestedTooDeeply htokens herror)

end Precedence.Arithmetic
