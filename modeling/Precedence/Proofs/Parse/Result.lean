import Precedence.Parser
import Precedence.Proofs.Parse.Progress

/-!
# Results of parsers

`Parser.parseResult` parses the tokens of a text as a whole expression (`parseResult_eq_ok_iff`).  A strict parser gives
the value of a result without errors and refuses any other one; a lenient parser gives the value of every result.
-/

namespace Precedence

open Parse

namespace Parse

theorem wholeExpression_steady (depth : Nat) : Steady (wholeExpression depth) := by
  refine (expression_steady depth 0).bind fun value => get_steady.bind fun context => ?_
  split
  · exact (report_steady _ _ _).bind fun _ => .pure _
  · exact .pure _

/-- A whole expression is an expression, and what follows it is reported. -/
theorem wholeExpression_eq_ok {depth : Nat} {c c' : Context} {t : Tree} (h : wholeExpression depth c = .ok t c') :
    ∃ context, expression depth 0 c = .ok t context ∧
      (context.atEnd ∧ c' = context ∨
        ¬ context.atEnd ∧ ∃ message, c' = context.add ⟨.error, Diagnostic.trailingInput, message, []⟩) := by
  obtain ⟨value, context, hrun, hrest⟩ := bind_eq_ok h
  change (if !context.atEnd then _ else _ : Parse Tree) context = .ok t c' at hrest
  by_cases hend : context.atEnd
  · rw [if_neg (by simpa using hend)] at hrest
    cases hrest
    exact ⟨_, hrun, .inl ⟨hend, rfl⟩⟩
  · rw [if_pos (by simpa using hend)] at hrest
    cases hrest
    exact ⟨_, hrun, .inr ⟨hend, _, rfl⟩⟩

/-- Where an expression is parsed, so is a whole one. -/
theorem exists_wholeExpression {depth : Nat} {c c' : Context} {t : Tree} (h : expression depth 0 c = .ok t c') :
    ∃ context, wholeExpression depth c = .ok t context := by
  unfold wholeExpression
  rw [bind_apply, h]
  show ∃ context, (if !c'.atEnd then _ else _ : Parse Tree) c' = .ok t context
  split
  · exact ⟨_, rfl⟩
  · exact ⟨_, rfl⟩

/-- A whole expression is an expression, with a report if the input does not end behind it. -/
theorem exists_of_wholeExpression {depth : Nat} {c c' : Context} {t : Tree} (h : wholeExpression depth c = .ok t c') :
    ∃ context, expression depth 0 c = .ok t context ∧ context.Leads c' ∧
      (context.atEnd ∧ c' = context ∨ hasErrors c'.diagnostics) := by
  obtain ⟨context, hrun, ⟨hend, rfl⟩ | ⟨-, message, rfl⟩⟩ := wholeExpression_eq_ok h
  · exact ⟨_, hrun, .refl _, .inl ⟨hend, rfl⟩⟩
  · exact ⟨_, hrun, Context.leads_add _ rfl, .inr (by simp [Context.add, hasErrors, Diagnostic.isError])⟩

/-- A whole expression with nothing to report is an expression up to the end of the input. -/
theorem expression_of_wholeExpression {depth : Nat} {c c' : Context} {t : Tree}
    (h : wholeExpression depth c = .ok t c') (hclean : c'.diagnostics = []) :
    expression depth 0 c = .ok t c' ∧ c'.atEnd := by
  obtain ⟨context, hrun, -, ⟨hend, rfl⟩ | hreported⟩ := exists_of_wholeExpression h
  · exact ⟨hrun, hend⟩
  · rw [hclean] at hreported
    cases hreported

end Parse

section

variable {parser : Parser} {source : String}

theorem lex_of_tokensOf {rules : List Rule} {tokens : List Token} {left : List Char}
    (h : tokensOf rules source.toList = .ok (tokens, left)) : lex rules source =
      .ok ⟨tokens ++ [.endOfInput], String.ofList left, if left.isEmpty then [] else [untokenizable rules left]⟩ := by
  rw [lex, h]

theorem exists_tokensOf {rules : List Rule} {lexed : Lexed} (h : lex rules source = .ok lexed) :
    ∃ tokens left, tokensOf rules source.toList = .ok (tokens, left) ∧ lexed.tokens = tokens ++ [.endOfInput] := by
  unfold lex at h
  cases htokens : tokensOf rules source.toList with
  | error error =>
    rw [htokens] at h
    cases h
  | ok cut =>
    rw [htokens] at h
    cases h
    exact ⟨cut.1, cut.2, rfl, rfl⟩

variable [Runtime]

/-- The tokens of a text are parsed as a whole expression, also where some of the text is left over. -/
theorem parseResult_of_tokensOf {tokens : List Token} {left : List Char}
    (h : tokensOf parser.rules source.toList = .ok (tokens, left)) :
    parser.parseResult source = match wholeExpression depthLimit (.initial tokens) with
      | .error _ _ => .error ParseFailure.nestedTooDeeply
      | .ok value context => .ok ⟨value,
          (if left.isEmpty then [] else [untokenizable parser.rules left]) ++ context.diagnostics,
          String.ofList left⟩ := by
  unfold Parser.parseResult Parser.lex
  rw [lex_of_tokensOf h]
  rfl

/-- The result for a text is that of parsing its tokens. -/
theorem parseResult_eq_ok_iff {result : ParseResult} : parser.parseResult source = .ok result ↔
    ∃ tokens left context, tokensOf parser.rules source.toList = .ok (tokens, left) ∧
      wholeExpression depthLimit (.initial tokens) = .ok result.value context ∧
      result.diagnostics = (if left.isEmpty then [] else [untokenizable parser.rules left]) ++ context.diagnostics ∧
      result.leftover = String.ofList left := by
  constructor
  · intro h
    cases htokens : tokensOf parser.rules source.toList with
    | error error =>
      unfold Parser.parseResult Parser.lex lex at h
      rw [htokens] at h
      cases h
    | ok cut =>
      obtain ⟨tokens, left⟩ := cut
      rw [parseResult_of_tokensOf htokens] at h
      cases hrun : wholeExpression depthLimit (.initial tokens) with
      | error _ context =>
        rw [hrun] at h
        cases h
      | ok value context =>
        rw [hrun] at h
        cases h
        exact ⟨tokens, left, context, rfl, hrun, rfl, rfl⟩
  · rintro ⟨tokens, left, context, htokens, hrun, hdiagnostics, hleftover⟩
    rw [parseResult_of_tokensOf htokens, hrun]
    dsimp only
    rw [← hdiagnostics, ← hleftover]

/-- A strict parser gives the value of a result without errors. -/
theorem exists_parseResult {tree : Tree} (hstrict : parser.strict) (h : parser.parse source = .ok tree) :
    ∃ result, parser.parseResult source = .ok result ∧ result.ok ∧ result.value = tree := by
  unfold Parser.parse at h
  cases hresult : parser.parseResult source with
  | error failure =>
    rw [hresult] at h
    cases h
  | ok result =>
    rw [hresult] at h
    change (if parser.strict && !result.ok then _ else _ : Except ParseFailure Tree) = .ok tree at h
    rw [hstrict] at h
    cases hok : result.ok with
    | false =>
      rw [hok] at h
      cases h
    | true =>
      rw [hok] at h
      cases h
      exact ⟨result, rfl, hok, rfl⟩

/-- A parser gives the value of its result, unless it is strict and the result has errors. -/
theorem parse_of_parseResult {result : ParseResult} (h : parser.parseResult source = .ok result) :
    parser.parse source =
      if parser.strict && !result.ok then .error (.rejected result.diagnostics) else .ok result.value := by
  unfold Parser.parse
  rw [h]
  show (if parser.strict && !result.ok then _ else _ : Except ParseFailure Tree) = _
  split <;> rfl

/-- A result without errors is that of a text of which nothing is left over and on which nothing is reported. -/
theorem exists_of_parseResult {result : ParseResult} (h : parser.parseResult source = .ok result) (hok : result.ok) :
    ∃ tokens context, tokensOf parser.rules source.toList = .ok (tokens, []) ∧
      wholeExpression depthLimit (.initial tokens) = .ok result.value context ∧ context.diagnostics = [] ∧
      result.diagnostics = [] ∧ result.leftover = "" := by
  obtain ⟨tokens, left, context, htokens, hrun, hdiagnostics, hleftover⟩ := parseResult_eq_ok_iff.mp h
  simp only [ParseResult.ok, hdiagnostics, hasErrors, List.any_append, Bool.not_or, Bool.and_eq_true] at hok
  cases left with
  | nil =>
    have hclean : ¬ hasErrors context.diagnostics := by simpa [hasErrors] using hok.2
    have hnothing : context.diagnostics = [] :=
      ((wholeExpression_steady depthLimit).leads hrun).diagnostics_eq_of_hasErrors hclean
    rw [hnothing] at hdiagnostics
    exact ⟨tokens, context, htokens, hrun, hnothing, hdiagnostics, hleftover⟩
  | cons c rest => simp [untokenizable, Diagnostic.isError] at hok

/-- A text is parsed as its tokens are if nothing is left over and nothing is reported. -/
theorem parse_of_tokensOf {tokens : List Token} {value : Tree} {context : Context}
    (htokens : tokensOf parser.rules source.toList = .ok (tokens, []))
    (hrun : wholeExpression depthLimit (.initial tokens) = .ok value context)
    (hclean : context.diagnostics = []) : parser.parse source = .ok value := by
  have hresult : parser.parseResult source = .ok ⟨value, [], ""⟩ :=
    parseResult_eq_ok_iff.mpr ⟨tokens, [], context, htokens, hrun, by simp [hclean], rfl⟩
  rw [parse_of_parseResult hresult, if_neg (by simp [ParseResult.ok, hasErrors])]

theorem parse_nestedTooDeeply {tokens : List Token} {context : Context}
    (htokens : tokensOf parser.rules source.toList = .ok (tokens, []))
    (hrun : wholeExpression depthLimit (.initial tokens) = .error ⟨⟩ context) :
    parser.parse source = .error .nestedTooDeeply := by
  unfold Parser.parse
  rw [parseResult_of_tokensOf htokens, hrun]
  rfl

end

end Precedence
