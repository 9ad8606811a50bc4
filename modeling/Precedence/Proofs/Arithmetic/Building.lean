import Precedence.Proofs.Arithmetic.Acceptance
import Precedence.Proofs.Arithmetic.Shape
import Precedence.Proofs.Lexing.Segmentation
import Precedence.Proofs.Parse.Termination

/-!
# The trees of texts with errors

What the arithmetic parser builds, whatever the text: the nodes of the grammar, and a failed part only where an
unexpected token has been reported (`Built`).  A parse goes through the steps of the tokens' meanings, and each step
keeps the invariant: what a token means builds a tree of its operands if these have been built (`builds_null`,
`builds_left`).  So a run builds its tree (`built_of_runs`), by induction on the run.
-/

namespace Precedence.Arithmetic

/-- The trees that the parser builds.  A part has failed only if the text may be incomplete, and the operand of a
negation is no integer literal. -/
inductive Built (incomplete : Prop) : Tree → Prop
  | failed (h : incomplete) : Built incomplete .failed
  | atom {text : String} (h : isIntegerLiteral text ∨ Lexeme .symbol text.toList) : Built incomplete (.atom text)
  | negation {t : Tree} (operand : Built incomplete t) (folded : ∀ text, t = .atom text → ¬ isIntegerLiteral text) :
      Built incomplete (.node [.atom Tree.negateLabel, t])
  | binary {op : Operator} {l r : Tree} (left : Built incomplete l) (right : Built incomplete r) :
      Built incomplete (.node [.atom op.symbol, l, r])
  | assignment {l r : Tree} (left : Built incomplete l) (right : Built incomplete r) :
      Built incomplete (.node [.atom Tree.assignLabel, l, r])
  | sequence {first : Tree} {more : List Tree} (all : ∀ t ∈ first :: more, Built incomplete t) :
      Built incomplete (.node (.atom Tree.sequenceLabel :: first :: more))
  | call {f a : Tree} (callee : Built incomplete f) (argument : Built incomplete a) : Built incomplete (.node [f, a])

variable {incomplete : Prop}

/-! ### Putting trees together -/

theorem Built.negated {t : Tree} (h : Built incomplete t) : Built incomplete t.negated := by
  rcases negated_cases t with ⟨text, hnegated, hliteral⟩ | ⟨hnegated, hsymbol⟩
  · rw [hnegated]
    exact .atom (.inl hliteral)
  · rw [hnegated]
    exact .negation h hsymbol

/-- A sequence has a member, and all its members have been built. -/
theorem Built.of_sequence {members : List Tree} (h : Built incomplete (.node (.atom Tree.sequenceLabel :: members))) :
    members ≠ [] ∧ ∀ t ∈ members, Built incomplete t := by
  generalize hlabel : Tree.sequenceLabel = label at h
  cases h with
  | negation => exact absurd hlabel (by decide)
  | @binary op => cases op <;> exact absurd hlabel (by decide)
  | assignment => exact absurd hlabel (by decide)
  | sequence all => exact ⟨List.cons_ne_nil _ _, all⟩
  | call _ argument => exact ⟨List.cons_ne_nil _ _, by simpa using argument⟩

theorem Built.listed {t : Tree} (h : Built incomplete t) : t.listed ≠ [] ∧ ∀ s ∈ t.listed, Built incomplete s := by
  rw [Tree.listed_eq]
  cases hmembers : t.sequenceMembers? with
  | none => simpa using h
  | some members =>
    rw [Tree.eq_of_sequenceMembers? hmembers] at h
    exact h.of_sequence

theorem Built.followedBy {left : Tree} {right : Option Tree} (h : Built incomplete left)
    (hright : ∀ t ∈ right, Built incomplete t) : Built incomplete (left.followedBy right) := by
  obtain ⟨hne, hlisted⟩ := h.listed
  obtain ⟨first, more, hcons⟩ := List.exists_cons_of_ne_nil hne
  have hall : ∀ t ∈ left.listed ++ right.toList, Built incomplete t :=
    List.forall_mem_append.mpr ⟨hlisted, by simpa using hright⟩
  rw [Tree.followedBy_eq]
  rw [hcons] at hall ⊢
  exact .sequence hall

theorem Built.succeeded? {t : Tree} (h : Built incomplete t) : ∀ s ∈ t.succeeded?, Built incomplete s := by
  intro s hs
  cases t with
  | failed => cases hs
  | atom text =>
    cases hs
    exact h
  | node members =>
    cases hs
    exact h

/-! ### What tokens mean -/

/-- The procedure builds a tree of operands that have been built, and it reports an unexpected token only if the text
may be incomplete. -/
def Builds (incomplete : Prop) : Procedure → Prop
  | .give t => Built incomplete t
  | .report code _ _ next => (code = Diagnostic.unexpectedToken → incomplete) → Builds incomplete next
  | .operand _ next => ∀ t, Built incomplete t → Builds incomplete (next t)
  | .look next => ∀ token, Builds incomplete (next token)
  | .skip next => Builds incomplete next
  | .items .. => False

theorem builds_unexpected (token : Token) (place : String) : Builds incomplete (Procedure.unexpected token place) :=
  fun hreport => .failed (hreport rfl)

theorem builds_expect {delimiter : Delimiter} {note : String} {next : Procedure} (h : Builds incomplete next) :
    Builds incomplete (Procedure.expect delimiter note next) := by
  intro token
  show Builds incomplete (if token.is delimiter then _ else _)
  split
  · exact h
  · exact fun _ => h

/-- The token is written as its kind is, or it ends the input. -/
def Legible (token : Token) : Prop := token = .endOfInput ∨ Lexeme token.kind token.value.toList

theorem Legible.kind_mem {token : Token} (h : Legible token) : token.kind ∈ kinds := by
  rcases h with rfl | hlexeme
  · exact List.mem_cons_self
  · exact List.mem_cons_of_mem _ hlexeme.kind_mem

/-- A number or a symbol is the atom of what is written. -/
theorem Legible.built_atom {token : Token} (h : Legible token) (hkind : token.kind = .number ∨ token.kind = .symbol) :
    Built incomplete (.atom token.value) := by
  rcases h with rfl | hlexeme
  · exact absurd hkind (by decide)
  rcases hkind with hnumber | hsymbol
  · exact .atom (.inl (isIntegerChars_of_isNumeral (isNumeral_of_lexeme hlexeme hnumber)))
  · rw [hsymbol] at hlexeme
    exact .atom (.inr hlexeme)

theorem builds_null {token : Token} (h : Legible token) : Builds incomplete token.nullProcedure := by
  unfold Token.nullProcedure
  rcases null_cases h.kind_mem with hnull | ⟨hkind, hnull⟩ | ⟨-, hnull⟩ | ⟨-, hnull⟩ | ⟨-, hnull⟩
  · rw [hnull]
    exact builds_unexpected token _
  · rw [hnull]
    exact h.built_atom hkind
  · rw [hnull]
    exact fun t ht => ht
  · rw [hnull]
    exact fun t ht => ht.negated
  · rw [hnull]
    exact fun t ht => builds_expect ht

theorem exists_operator_of_operation {kind : Kind} (h : kind ∈ kinds) (hleft : kind.left = .operation) :
    ∃ op : Operator, kind.name = op.symbol := by
  have hall : ∀ kind ∈ kinds, kind.left = .operation →
      ∃ op ∈ [Operator.add, .sub, .mul, .div], kind.name = op.symbol := by decide
  obtain ⟨op, -, hname⟩ := hall kind h hleft
  exact ⟨op, hname⟩

theorem builds_left {token : Token} (h : Legible token) {left : Tree} (hbuilt : Built incomplete left) :
    Builds incomplete (token.leftProcedure left) := by
  unfold Token.leftProcedure
  rcases left_cases h.kind_mem with hleft | hleft | hleft | ⟨-, hleft⟩ | ⟨-, hleft⟩
  · rw [hleft]
    exact builds_unexpected token _
  · obtain ⟨op, hname⟩ := exists_operator_of_operation h.kind_mem hleft
    rw [hleft]
    intro right hright
    show Built incomplete (.node [.atom token.kind.name, left, right])
    rw [hname]
    exact .binary hbuilt hright
  · rw [hleft]
    exact fun right hright => .assignment hbuilt hright
  · rw [hleft]
    intro next
    show Builds incomplete (if Procedure.ends _ next then _ else _)
    split
    · exact hbuilt.followedBy (by simp)
    · exact fun right hright => hbuilt.followedBy hright.succeeded?
  · rw [hleft]
    exact fun argument hargument => builds_expect (.call hbuilt hargument)

/-! ### Runs -/

/-- What the stage begins with has been built. -/
def Begun (incomplete : Prop) : Stage → Prop
  | .expression _ => True
  | .extension _ operand => Built incomplete operand
  | .procedure steps => Builds incomplete steps

theorem Tokenized.of_leads {c c' : Context} (h : Tokenized c) (hc : c.Leads c') : Tokenized c' :=
  fun token hmem => h token (hc.mem_rest hmem)

theorem Tokenized.nonneg {c : Context} (h : Tokenized c) : c.Nonneg := by
  intro token hmem
  have hkind := h token hmem
  constructor
  · rcases null_cases hkind with h | ⟨-, h⟩ | ⟨-, h⟩ | ⟨-, h⟩ | ⟨-, h⟩ <;> simp [h, NullDenotation.Nonneg]
  · rcases left_cases hkind with h | h | h | ⟨-, h⟩ | ⟨-, h⟩ <;> simp [h, LeftDenotation.Nonneg]

/-- All tokens that are left are written as their kinds are. -/
def AllLegible (c : Context) : Prop := ∀ token ∈ c.rest, Legible token

theorem AllLegible.of_leads {c c' : Context} (h : AllLegible c) (hc : c.Leads c') : AllLegible c' :=
  fun token hmem => h token (hc.mem_rest hmem)

theorem AllLegible.lookahead {c : Context} (h : AllLegible c) : Legible c.lookahead :=
  Context.lookahead_of_forall h (.inl rfl)

theorem AllLegible.tokenized {c : Context} (h : AllLegible c) : Tokenized c := fun token hmem => (h token hmem).kind_mem

theorem AllLegible.nonneg {c : Context} (h : AllLegible c) : c.Nonneg := h.tokenized.nonneg

/-- An unexpected token has been reported. -/
def Unexpected (diagnostics : List Diagnostic) : Prop := ∃ d ∈ diagnostics, d.code = Diagnostic.unexpectedToken

theorem Unexpected.of_prefix {ds es : List Diagnostic} (h : Unexpected ds) (hes : ds <+: es) : Unexpected es := by
  obtain ⟨d, hmem, hcode⟩ := h
  exact ⟨d, hes.subset hmem, hcode⟩

/-- A run builds its tree of what it begins with. -/
theorem built_of_runs {stage : Stage} {c c' : Context} {t : Tree} (h : Runs stage c t c') (hc : AllLegible c)
    (hstage : Begun incomplete stage) (hreports : Unexpected c'.diagnostics → incomplete) : Built incomplete t := by
  induction h with
  | @expression power c c' c'' t u first more ihfirst ihmore =>
    have hskip := hc.of_leads c.leads_skip
    have hfirst : Built incomplete t :=
      ihfirst hskip (builds_null hc.lookahead) fun h => hreports (h.of_prefix more.leads.diagnostics_prefix)
    exact ihmore (hskip.of_leads first.leads) hfirst hreports
  | stop => exact hstage
  | @extend power c c' c'' t u v tight next more ihnext ihmore =>
    have hskip := hc.of_leads c.leads_skip
    have hnext : Built incomplete u :=
      ihnext hskip (builds_left hc.lookahead hstage) fun h => hreports (h.of_prefix more.leads.diagnostics_prefix)
    exact ihmore (hskip.of_leads next.leads) hnext hreports
  | give => exact hstage
  | @report code message notes next c c' t more ih =>
    -- what has been reported here is reported in the end
    have hreported : code = Diagnostic.unexpectedToken → incomplete := by
      intro hcode
      refine hreports (Unexpected.of_prefix ⟨_, List.mem_append_right c.diagnostics (List.mem_singleton_self _), ?_⟩
        more.leads.diagnostics_prefix)
      exact hcode
    exact ih (hc.of_leads (c.leads_add rfl)) (hstage hreported) hreports
  | @operand power next c c' c'' t u inner more ihinner ihmore =>
    have hinner : Built incomplete t :=
      ihinner hc trivial fun h => hreports (h.of_prefix more.leads.diagnostics_prefix)
    exact ihmore (hc.of_leads inner.leads) (hstage t hinner) hreports
  | @look next c c' t more ih => exact ih hc (hstage c.lookahead) hreports
  | @skip next c c' t more ih => exact ih (hc.of_leads c.leads_skip) hstage hreports
  | items => exact hstage.elim

/-! ### Results -/

/-- The tokens of a text are written as their kinds are, also where some of the text is left over. -/
theorem lexeme_of_tokensOf {text : List Char} {tokens : List Token} {left : List Char}
    (h : tokensOf rules text = .ok (tokens, left)) : ∀ token ∈ tokens, Lexeme token.kind token.value.toList := by
  obtain ⟨chunks, hcut, rfl⟩ := exists_chunks_of_tokensOf h
  intro token hmem
  obtain ⟨chunk, hchunk, rfl⟩ := List.mem_map.mp hmem
  have hfirst := hcut.isFirst_of_mem chunk hchunk
  have htoken := hfirst.firstMatch.firstToken?_eq
  rw [hfirst.checked_eq, rules_eq, firstToken?_lexicon] at htoken
  cases hhead : (Pattern.begun chunk.remaining).head? with
  | none =>
    rw [hhead] at htoken
    cases htoken
  | some c =>
    rw [hhead] at htoken
    cases hentry : entryFor? lexicon c with
    | none =>
      rw [Option.bind_some, hentry] at htoken
      cases htoken
    | some entry =>
      rw [Option.bind_some, hentry] at htoken
      obtain ⟨rest, hbegun⟩ := List.head?_eq_some_iff.mp hhead
      have hlexeme := (lexeme_of_entryFor? hentry rest).1
      have heq : entry.token (c :: rest) = chunk.token := by
        rw [hbegun] at htoken
        injection htoken with htoken
        injection htoken with htoken
        rw [← hfirst.ruleToken_eq]
        exact congrArg Prod.fst htoken
      rw [← heq]
      simpa [Entry.token] using hlexeme

theorem allLegible_initial {text : List Char} {tokens : List Token} {left : List Char}
    (h : tokensOf rules text = .ok (tokens, left)) : AllLegible (.initial tokens) := by
  refine List.forall_mem_append.mpr ⟨?_, by simp [Legible]⟩
  exact fun token hmem => .inr (lexeme_of_tokensOf h token hmem)

/-- The value of a result has been built, with failed parts only if an unexpected token has been reported. -/
theorem built_of_parseResult [Runtime] {strict : Bool} {source : String} {result : ParseResult}
    (h : (parser strict).parseResult source = .ok result) : Built (Unexpected result.diagnostics) result.value := by
  obtain ⟨tokens, left, context, htokens, hrun, hdiagnostics, -⟩ := parseResult_eq_ok_iff.mp h
  rw [parser_rules] at htokens
  have hlegible := allLegible_initial htokens
  obtain ⟨c, hexpression, hlead, -⟩ := Parse.exists_of_wholeExpression hrun
  have hruns := runs_of_expression hlegible.nonneg (Int.le_refl 0) hexpression
  refine built_of_runs hruns hlegible trivial fun hreported => ?_
  obtain ⟨d, hmem, hcode⟩ := hreported.of_prefix hlead.diagnostics_prefix
  rw [hdiagnostics]
  exact ⟨d, List.mem_append_right _ hmem, hcode⟩

end Precedence.Arithmetic
