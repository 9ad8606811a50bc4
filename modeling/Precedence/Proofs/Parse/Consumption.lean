import Precedence.Proofs.Arithmetic.Rendering
import Precedence.Proofs.Lexing.Segmentation
import Precedence.Proofs.Parse.Result

/-!
# No input is dropped

A parse takes tokens one after the other and reports errors in between (`Context.Takes`).  What it has taken and what it
has left are the tokens that it began with, followed by ends of the input (`Takes.taken_append_rest`).  So no token is
passed over and none is taken twice, whatever the kinds of the tokens mean.

A result without errors has taken all tokens of its text, and nothing of the text is left over.  Where something has
been left, the result has errors and a strict parser gives no tree (`parseResult_takes_tokens`).
-/

namespace Precedence

open Parse

namespace Context

/-! ### Taking tokens -/

/-- The second state is reached from the first one by taking the tokens, one after the other.  Errors may be reported
on the way. -/
inductive Takes : Context → List Token → Context → Prop
  | refl (c : Context) : Takes c [] c
  | advance {c c' c'' : Context} {token : Token} {taken : List Token} (step : Parse.advance c = .ok token c')
      (more : Takes c' taken c'') : Takes c (token :: taken) c''
  | report {c c' c'' : Context} {code message : String} {notes : List String} {taken : List Token}
      (step : Parse.report code message notes c = .ok () c') (more : Takes c' taken c'') : Takes c taken c''

theorem Takes.trans {a b c : Context} {u v : List Token} (hab : a.Takes u b) (hbc : b.Takes v c) :
    a.Takes (u ++ v) c := by
  induction hab with
  | refl => exact hbc
  | advance step _ ih => exact .advance step (ih hbc)
  | report step _ ih => exact .report step (ih hbc)

theorem Takes.leads {c c' : Context} {taken : List Token} (h : c.Takes taken c') : c.Leads c' := by
  induction h with
  | refl c => exact .refl c
  | advance step _ ih =>
    cases step
    exact (leads_skip _).trans ih
  | report step _ ih =>
    cases step
    exact (leads_add _ rfl).trans ih

/-- To pass over tokens is to take them. -/
theorem takes_drop (c : Context) (count : Nat) :
    c.Takes ((List.range count).map fun n => (c.drop n).lookahead) (c.drop count) := by
  induction count with
  | zero => exact .refl c
  | succ count ih =>
    have hstep : advance (c.drop count) = .ok (c.drop count).lookahead (c.drop (count + 1)) := by
      rw [← drop_drop, ← skip_eq_drop]
      rfl
    rw [List.range_succ, List.map_append]
    exact ih.trans (.advance hstep (.refl _))

theorem takes_reports (c : Context) {added : List Diagnostic} (h : ∀ d ∈ added, d.severity = .error) :
    c.Takes [] { c with diagnostics := c.diagnostics ++ added } := by
  induction added generalizing c with
  | nil =>
    rw [List.append_nil]
    exact .refl c
  | cons d added ih =>
    obtain ⟨hd, hadded⟩ := List.forall_mem_cons.mp h
    obtain ⟨severity, code, message, notes⟩ := d
    cases hd
    have hmore := ih (c.add ⟨.error, code, message, notes⟩) hadded
    simp only [add, List.append_assoc, List.singleton_append] at hmore
    exact .report rfl hmore

/-- A state that leads to another one does so by taking tokens. -/
theorem Leads.exists_takes {c c' : Context} (h : c.Leads c') : ∃ taken, c.Takes taken c' := by
  obtain ⟨count, added, rfl, hadded⟩ := h
  have hreports := (c.drop count).takes_reports hadded
  exact ⟨_, (c.takes_drop count).trans hreports⟩

theorem Takes.consumed_eq {c c' : Context} {taken : List Token} (h : c.Takes taken c') :
    c'.consumed = c.consumed + taken.length := by
  induction h with
  | refl => rfl
  | advance step _ ih =>
    cases step
    rw [ih, skip_consumed, List.length_cons]
    omega
  | report step _ ih =>
    cases step
    exact ih

/-- What has been taken and what is left are the tokens of before, with nothing but ends of the input behind them. -/
theorem Takes.taken_append_rest {c c' : Context} {taken : List Token} (h : c.Takes taken c') :
    ∃ ends, taken ++ c'.rest = c.rest ++ ends ∧ ∀ token ∈ ends, token = .endOfInput := by
  induction h with
  | refl c => exact ⟨[], by simp, by simp⟩
  | @advance c c' c'' token taken step _ ih =>
    obtain ⟨ends, heq, hends⟩ := ih
    cases step
    rw [skip_rest] at heq
    cases hrest : c.rest with
    | nil =>
      -- behind the last token there is one more end of the input
      rw [hrest] at heq
      refine ⟨.endOfInput :: ends, ?_, List.forall_mem_cons.mpr ⟨rfl, hends⟩⟩
      rw [lookahead_of_nil hrest, List.cons_append, heq]
      rfl
    | cons token rest =>
      rw [hrest] at heq
      refine ⟨ends, ?_, hends⟩
      rw [lookahead_of_rest hrest, List.cons_append, heq]
      rfl
  | report step _ ih =>
    cases step
    exact ih

/-- At the end of the input all tokens have been taken, if none of them is an end of the input itself. -/
theorem Takes.exists_ends {tokens taken : List Token} {c' : Context} (h : (initial tokens).Takes taken c')
    (hend : c'.atEnd) (htokens : ∀ token ∈ tokens, ¬ token.isEnd) :
    ∃ ends, taken = tokens ++ ends ∧ ∀ token ∈ ends, token = .endOfInput := by
  obtain ⟨ends, heq, hends⟩ := h.taken_append_rest
  have hall : ∀ token ∈ [Token.endOfInput] ++ ends, token = .endOfInput :=
    List.forall_mem_append.mpr ⟨by simp, hends⟩
  change taken ++ c'.rest = (tokens ++ [.endOfInput]) ++ ends at heq
  rw [List.append_assoc] at heq
  rcases List.append_eq_append_iff.mp heq with ⟨left, htokens_eq, hrest⟩ | ⟨more, htaken, hmore⟩
  · cases left with
    | nil => exact ⟨[], by simpa using htokens_eq.symm, by simp⟩
    | cons token left =>
      -- a token that is left is the next one, so that the input does not end here
      have hnext : c'.lookahead = token := lookahead_of_rest hrest
      have hmem : token ∈ tokens := by simp [htokens_eq]
      rw [atEnd, hnext] at hend
      exact absurd hend (htokens token hmem)
  · refine ⟨more, htaken, fun token hmem => hall token ?_⟩
    rw [hmore]
    exact List.mem_append_left _ hmem

/-- The input ends exactly where all tokens have been taken. -/
theorem Takes.atEnd_iff {tokens taken : List Token} {c' : Context} (h : (initial tokens).Takes taken c')
    (htokens : ∀ token ∈ tokens, ¬ token.isEnd) : c'.atEnd ↔ tokens <+: taken := by
  constructor
  · intro hend
    obtain ⟨ends, hall, -⟩ := h.exists_ends hend htokens
    exact ⟨ends, hall.symm⟩
  · rintro ⟨more, rfl⟩
    obtain ⟨ends, heq, hends⟩ := h.taken_append_rest
    change tokens ++ more ++ c'.rest = tokens ++ [.endOfInput] ++ ends at heq
    simp only [List.append_assoc, List.append_cancel_left_eq] at heq
    have hnext : c'.lookahead = .endOfInput := by
      refine lookahead_of_forall (p := (· = .endOfInput)) (fun token hmem => ?_) rfl
      have hmem : token ∈ [.endOfInput] ++ ends := heq ▸ List.mem_append_right more hmem
      exact List.forall_mem_append.mpr ⟨by simp, hends⟩ token hmem
    rw [Context.atEnd, hnext]
    rfl

end Context

/-! ### What is left is reported -/

/-- Where no rule makes an end of the input, a result is reached by taking the tokens of the text in their order.  If
there is no error, then all of them have been taken, with nothing but ends of the input after them, and nothing of the
text is left over.  If there is a token that has not been taken, or text that is left over, then an error has been
reported, and a strict parser refuses the text. -/
theorem parseResult_takes_tokens [Runtime] {parser : Parser} {source : String} {result : ParseResult}
    (hrules : ∀ rule ∈ parser.rules, ¬ rule.kind.isEnd) (h : parser.parseResult source = .ok result) :
    ∃ lexed tokens taken context, parser.lex source = .ok lexed ∧ lexed.tokens = tokens ++ [.endOfInput] ∧
      lexed.leftover = result.leftover ∧
      wholeExpression depthLimit (.initial tokens) = .ok result.value context ∧
      (Context.initial tokens).Takes taken context ∧ context.consumed = taken.length ∧
      (result.ok → result.leftover = "" ∧ ∃ ends, taken = tokens ++ ends ∧ ∀ token ∈ ends, token = .endOfInput) ∧
      (result.leftover ≠ "" ∨ ¬ tokens <+: taken → hasErrors result.diagnostics ∧
        (parser.strict → parser.parse source = .error (.rejected result.diagnostics))) := by
  obtain ⟨tokens, left, context, htokens, hrun, -, hleftover⟩ := parseResult_eq_ok_iff.mp h
  obtain ⟨taken, htaken⟩ := ((wholeExpression_steady depthLimit).leads hrun).exists_takes
  have hkinds : ∀ token ∈ tokens, ¬ token.isEnd := by
    intro token hmem
    obtain ⟨rule, hrule, hkind⟩ := exists_rule_of_tokensOf htokens token hmem
    show ¬ token.kind.isEnd
    rw [hkind]
    exact hrules rule hrule
  have hall : result.ok → result.leftover = "" ∧
      ∃ ends, taken = tokens ++ ends ∧ ∀ token ∈ ends, token = .endOfInput := by
    intro hok
    obtain ⟨tokens', context', htokens', hrun', hclean, -, hempty⟩ := exists_of_parseResult h hok
    cases htokens.symm.trans htokens'
    cases hrun.symm.trans hrun'
    exact ⟨hempty, htaken.exists_ends (expression_of_wholeExpression hrun hclean).2 hkinds⟩
  refine ⟨_, tokens, taken, context, lex_of_tokensOf htokens, rfl, hleftover.symm, hrun, htaken, ?_, hall, ?_⟩
  · rw [htaken.consumed_eq]
    exact Nat.zero_add _
  · intro hleft
    have hnot : ¬ result.ok := by
      intro hok
      obtain ⟨hempty, ends, rfl, -⟩ := hall hok
      rcases hleft with hne | hmissing
      · exact hne hempty
      · exact hmissing (List.prefix_append tokens ends)
    refine ⟨by simpa [ParseResult.ok] using hnot, fun hstrict => ?_⟩
    rw [parse_of_parseResult h, if_pos (by simp [hstrict, hnot])]

/-- The tokens of `2)`, where the parenthesis is left. -/
def unopened : List Token := [⟨.number, "2"⟩, ⟨.closeParen, ")"⟩]

/-- The report on the parenthesis of `2)`. -/
def unopenedReport : Diagnostic :=
  ⟨.error, Diagnostic.trailingInput, "unexpected " ++ shown ⟨.closeParen, ")"⟩ ++ " after expression", []⟩

private theorem wholeExpression_unopened : wholeExpression depthLimit (.initial unopened) =
    .ok (.atom "2") ⟨[⟨.closeParen, ")"⟩, .endOfInput], 1, [unopenedReport]⟩ := rfl

theorem parseResult_takes_tokens_unopened :
    (∀ rule ∈ (Arithmetic.parser true).rules, ¬ rule.kind.isEnd) ∧
      (Arithmetic.parser true).parseResult "2)" = .ok ⟨.atom "2", [unopenedReport], ""⟩ ∧
      (∃ context, (Context.initial unopened).Takes [⟨.number, "2"⟩] context) ∧
      (Arithmetic.parser true).parse "2)" = .error (.rejected [unopenedReport]) := by
  have hkinds : ∀ kind ∈ Kind.arithmetic, ¬ kind.isEnd := by decide
  have hrules : ∀ rule ∈ (Arithmetic.parser true).rules, ¬ rule.kind.isEnd := by
    rw [Arithmetic.parser_rules]
    exact fun rule hrule => hkinds _ (Arithmetic.rule_kind_mem rule hrule)
  have hclose : Arithmetic.Renders [⟨.closeParen, ")"⟩] [')'] :=
    .mark (by decide) (.nil (List.forall_mem_nil _))
  have hrenders : Arithmetic.Renders unopened ['2', ')'] :=
    hclose.lexeme (.number (by decide)) (by simp [show Text.isDigit ')' = false by decide])
  have htokens : tokensOf Arithmetic.rules "2)".toList = .ok (unopened, []) :=
    Arithmetic.tokensOf_eq_iff.mpr ⟨hrenders, nofun⟩
  rw [← Arithmetic.parser_rules true] at htokens
  have hresult : (Arithmetic.parser true).parseResult "2)" = .ok ⟨.atom "2", [unopenedReport], ""⟩ :=
    parseResult_eq_ok_iff.mpr ⟨unopened, [], _, htokens, wholeExpression_unopened, rfl, rfl⟩
  obtain ⟨lexed, tokens, taken, context, hlex, heq, -, hrun, htaken, hconsumed, -, hrejected⟩ :=
    parseResult_takes_tokens hrules hresult
  cases (lex_of_tokensOf htokens).symm.trans hlex
  obtain rfl : unopened = tokens := List.append_cancel_right heq
  cases wholeExpression_unopened.symm.trans hrun
  obtain ⟨token, rfl⟩ := List.length_eq_one_iff.mp hconsumed.symm
  obtain ⟨ends, hall, -⟩ := htaken.taken_append_rest
  obtain rfl : token = ⟨.number, "2"⟩ := (List.cons.inj hall).1
  have hmissing : ¬ unopened <+: [⟨.number, "2"⟩] := by
    intro hbegins
    exact absurd hbegins.length_le (by decide)
  exact ⟨hrules, hresult, ⟨_, htaken⟩, (hrejected (.inr hmissing)).2 rfl⟩

end Precedence
