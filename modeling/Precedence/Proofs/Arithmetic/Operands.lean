import Precedence.Proofs.Arithmetic.Steps
import Precedence.Proofs.Parse.Trace
import Precedence.Proofs.Tree.Form

/-!
# Operands of texts with errors

The operands of a tree, read from left to right, are its numbers and names without the tags of its nodes
(`Tree.operandTexts`).  A parse loses none of them and changes no order, whatever is wrong with the tokens: what it
builds has the operands that it has begun with, followed by the numbers and symbols that it takes
(`operandTexts_of_traces`, by induction on the trace).  A token without a meaning is thrown away alone, since such a
token binds nothing on its left, and a sequence leaves out a failed tree, which has no operands.

So the tree of a whole expression has the numbers and symbols that have been taken, and what follows it is reported
exactly if a token is left (`operandTexts_of_wholeExpression`).
-/

namespace Precedence

namespace Tree

/-! ### Operands of trees -/

/-- Whether the tree is the tag of a node in which the members follow it. -/
def isTagOf : Tree → List Tree → Bool
  | atom label, members =>
    match taggedForm label members with
    | .sequence _ | .assign .. | .binary .. | .negate _ => true
    | _ => false
  | _, _ => false

/-- An integer literal without its sign, and any other text as it is. -/
def unsigned (text : String) : String :=
  if isIntegerLiteral text then String.ofList (literalDigits text.toList) else text

mutual

/-- The operands of a tree from left to right, without the tags of nodes and the signs of literals. -/
def operandTexts : Tree → List String
  | failed => []
  | atom text => [unsigned text]
  | node [] => []
  | node (first :: members) => (if first.isTagOf members then [] else first.operandTexts) ++ operandTextsOf members

/-- The operands of several trees. -/
def operandTextsOf : List Tree → List String
  | [] => []
  | t :: ts => t.operandTexts ++ operandTextsOf ts

end

/-- A pair that begins with the tree is a call. -/
def Callable (t : Tree) : Prop := ∀ argument, t.isTagOf [argument] = false

theorem operandTexts_tagged {label : String} {members : List Tree} (h : (atom label).isTagOf members) :
    (node (atom label :: members)).operandTexts = operandTextsOf members := by
  rw [operandTexts, if_pos h, List.nil_append]

theorem operandTexts_binary (op : Operator) (left right : Tree) :
    (node [atom op.symbol, left, right]).operandTexts = left.operandTexts ++ right.operandTexts := by
  rw [operandTexts_tagged (by cases op <;> rfl)]
  simp [operandTextsOf]

theorem operandTexts_assign (left right : Tree) :
    (node [atom assignLabel, left, right]).operandTexts = left.operandTexts ++ right.operandTexts := by
  rw [operandTexts_tagged rfl]
  simp [operandTextsOf]

theorem operandTexts_sequence (members : List Tree) :
    (node (atom sequenceLabel :: members)).operandTexts = operandTextsOf members := operandTexts_tagged rfl

theorem operandTexts_call {left : Tree} (h : left.Callable) (right : Tree) :
    (node [left, right]).operandTexts = left.operandTexts ++ right.operandTexts := by
  rw [operandTexts, if_neg (by simp [h right])]
  simp [operandTextsOf]

theorem operandTextsOf_append (ts us : List Tree) :
    operandTextsOf (ts ++ us) = operandTextsOf ts ++ operandTextsOf us := by
  induction ts with
  | nil => rfl
  | cons t ts ih => rw [List.cons_append, operandTextsOf, operandTextsOf, ih, List.append_assoc]

theorem operandTextsOf_listed (t : Tree) : operandTextsOf t.listed = t.operandTexts := by
  rw [listed_eq]
  cases hmembers : t.sequenceMembers? with
  | none => simp [operandTextsOf]
  | some members =>
    rw [eq_of_sequenceMembers? hmembers, operandTexts_sequence]
    rfl

theorem operandTextsOf_succeeded? (t : Tree) : operandTextsOf t.succeeded?.toList = t.operandTexts := by
  cases t <;> simp [succeeded?, operandTextsOf, operandTexts]

theorem operandTexts_followedBy (left : Tree) (right : Option Tree) :
    (left.followedBy right).operandTexts = left.operandTexts ++ operandTextsOf right.toList := by
  rw [followedBy_eq, operandTexts_sequence, operandTextsOf_append, operandTextsOf_listed]

/-! ### Negations -/

theorem unsigned_of_literal {text : String} (h : isIntegerLiteral text) :
    unsigned text = String.ofList (literalDigits text.toList) := if_pos h

theorem operandTexts_negation (operand : Tree) :
    (node [atom negateLabel, operand]).operandTexts = operand.operandTexts := by
  rw [operandTexts_tagged rfl]
  simp [operandTextsOf]

/-- A literal that is negated on its spelling keeps its digits. -/
theorem operandTexts_negated (t : Tree) : t.negated.operandTexts = t.operandTexts := by
  unfold negated
  split
  · next text =>
    split
    · next hliteral =>
      rw [operandTexts, operandTexts, unsigned_of_literal (isIntegerLiteral_toggleSign hliteral),
        unsigned_of_literal hliteral, String.toList_ofList, literalDigits_toggleSign hliteral]
    · exact operandTexts_negation _
  · exact operandTexts_negation _

/-! ### Callees -/

theorem callable_failed : Callable failed := fun _ => rfl

theorem callable_node (members : List Tree) : Callable (node members) := fun _ => rfl

theorem callable_atom {text : String} (hsequence : text ≠ sequenceLabel) (hnegate : text ≠ negateLabel) :
    Callable (atom text) := by
  intro argument
  simp [isTagOf, taggedForm, hsequence, hnegate]

theorem callable_literal {text : String} (h : isIntegerLiteral text) : Callable (atom text) := by
  refine callable_atom ?_ ?_
  all_goals
    rintro rfl
    exact absurd h (by decide)

theorem callable_negated (t : Tree) : Callable t.negated := by
  rcases Arithmetic.negated_cases t with ⟨text, hnegated, hliteral⟩ | ⟨hnegated, -⟩
  · rw [hnegated]
    exact callable_literal hliteral
  · rw [hnegated]
    exact callable_node _

end Tree

/-- Whether the token is a number or a symbol. -/
def Token.isOperand (token : Token) : Bool := decide (token.kind = .number ∨ token.kind = .symbol)

/-- A token is no operand if something is true of its kind that is not true of numbers and symbols. -/
theorem Token.not_isOperand_of {p : Kind → Prop} {token : Token} (h : p token.kind) (hnumber : ¬ p .number)
    (hsymbol : ¬ p .symbol) : ¬ token.isOperand := by
  simp only [isOperand, decide_eq_true_eq]
  rintro (hkind | hkind)
  · exact hnumber (hkind ▸ h)
  · exact hsymbol (hkind ▸ h)

/-- The numbers and symbols among the tokens, as they are written. -/
def operandValues (tokens : List Token) : List String := (tokens.filter Token.isOperand).map Token.value

theorem operandValues_append (tokens more : List Token) :
    operandValues (tokens ++ more) = operandValues tokens ++ operandValues more := by
  simp [operandValues]

theorem operandValues_cons (token : Token) (tokens : List Token) :
    operandValues (token :: tokens) = operandValues [token] ++ operandValues tokens :=
  operandValues_append [token] tokens

theorem operandValues_of_not_isOperand {token : Token} (h : ¬ token.isOperand) : operandValues [token] = [] := by
  simp [operandValues, h]

namespace Arithmetic

/-- The token is legible, and it is no symbol that reads like the tag of a sequence. -/
structure Distinct (token : Token) : Prop where
  legible : Legible token
  untagged : token.kind = .symbol → token.value ≠ Tree.sequenceLabel

theorem unsigned_of_symbol {text : String} (h : Lexeme .symbol text.toList) : Tree.unsigned text = text :=
  if_neg (not_isIntegerChars_of_symbol h)

/-- A number or a symbol is its own operand, and what it stands for may be called. -/
theorem Distinct.operand {token : Token} (h : Distinct token) (hoperand : token.isOperand) :
    (Tree.atom token.value).Callable ∧ (Tree.atom token.value).operandTexts = operandValues [token] := by
  have hvalues : operandValues [token] = [token.value] := by simp [operandValues, hoperand]
  have hkind : token.kind = .number ∨ token.kind = .symbol := by simpa [Token.isOperand] using hoperand
  rw [hvalues, Tree.operandTexts]
  rcases h.legible with rfl | hlexeme
  · exact absurd hkind (by decide)
  rcases hkind with hnumber | hsymbol
  · have hnumeral := isNumeral_of_lexeme hlexeme hnumber
    have hliteral : isIntegerLiteral token.value := isIntegerChars_of_isNumeral hnumeral
    rw [Tree.unsigned_of_literal hliteral, literalDigits_of_isNumeral hnumeral, String.ofList_toList]
    exact ⟨Tree.callable_literal hliteral, rfl⟩
  · rw [hsymbol] at hlexeme
    rw [unsigned_of_symbol hlexeme]
    refine ⟨Tree.callable_atom (h.untagged hsymbol) ?_, rfl⟩
    intro hnegate
    rw [hnegate] at hlexeme
    exact not_symbol_negateLabel hlexeme

theorem distinct_endOfInput : Distinct .endOfInput := ⟨.inl rfl, fun hsymbol => absurd hsymbol (by decide)⟩

/-- All tokens that are left are distinct from tags. -/
def AllDistinct (c : Context) : Prop := ∀ token ∈ c.rest, Distinct token

theorem AllDistinct.of_leads {c c' : Context} (h : AllDistinct c) (hc : c.Leads c') : AllDistinct c' :=
  fun token hmem => h token (hc.mem_rest hmem)

theorem AllDistinct.lookahead {c : Context} (h : AllDistinct c) : Distinct c.lookahead :=
  Context.lookahead_of_forall h distinct_endOfInput

theorem AllDistinct.allLegible {c : Context} (h : AllDistinct c) : AllLegible c :=
  fun token hmem => (h token hmem).legible

theorem AllDistinct.nonneg {c : Context} (h : AllDistinct c) : c.Nonneg := h.allLegible.nonneg

theorem allDistinct_initial {tokens : List Token} (lexemes : ∀ token ∈ tokens, Lexeme token.kind token.value.toList)
    (untagged : ∀ token ∈ tokens, token.kind = .symbol → token.value ≠ Tree.sequenceLabel) :
    AllDistinct (.initial tokens) := by
  refine List.forall_mem_append.mpr ⟨fun token hmem => ⟨.inr (lexemes token hmem), untagged token hmem⟩, ?_⟩
  simpa using distinct_endOfInput

/-! ### What tokens mean -/

/-- In front of the token, the procedure builds a tree that may be called, whose operands are the given ones and those
of the expressions that are parsed, in this order, and the procedure skips no number and no symbol. -/
def Keeps (token : Token) (before : List String) : Procedure → Prop
  | .give t => t.Callable ∧ t.operandTexts = before
  | .report _ _ _ next => Keeps token before next
  | .operand _ next => ∀ t : Tree, t.Callable → ∀ token, Keeps token (before ++ t.operandTexts) (next t)
  | .look next => Keeps token before (next token)
  | .skip next => ¬ token.isOperand ∧ ∀ token, Keeps token before next
  | .items .. => False

theorem keeps_expect {before : List String} {note : String} {t : Tree} (h : t.Callable)
    (htexts : t.operandTexts = before) (token : Token) :
    Keeps token before (Procedure.expect Kind.closeParen.delimiter note (.give t)) := by
  show Keeps token before (if token.is _ then _ else _)
  split
  · next hclose =>
    -- what is skipped is a closing parenthesis, or a variant of one
    have hkind : token.kind.isA Kind.closeParen.id := hclose
    exact ⟨Token.not_isOperand_of (p := fun kind => kind.isA _) hkind (by decide) (by decide), fun _ => ⟨h, htexts⟩⟩
  · exact ⟨h, htexts⟩

/-- At the start of an expression a number or a symbol is an operand, and no other token is thrown away with one. -/
theorem keeps_null {token : Token} (h : Distinct token) (next : Token) :
    Keeps next (operandValues [token]) token.nullProcedure := by
  have hnone : token.kind.null ≠ .value → operandValues [token] = [] := fun hnull =>
    operandValues_of_not_isOperand (Token.not_isOperand_of (p := (·.null ≠ .value)) hnull (by decide) (by decide))
  unfold Token.nullProcedure
  rcases null_cases h.legible.kind_mem with hnull | ⟨hkind, hnull⟩ | ⟨-, hnull⟩ | ⟨-, hnull⟩ | ⟨-, hnull⟩
  · rw [hnone (by simp [hnull]), hnull]
    exact ⟨Tree.callable_failed, rfl⟩
  · rw [hnull]
    exact h.operand (decide_eq_true hkind)
  · rw [hnone (by simp [hnull]), hnull]
    exact fun t ht _ => ⟨ht, rfl⟩
  · rw [hnone (by simp [hnull]), hnull]
    exact fun t _ _ => ⟨Tree.callable_negated t, Tree.operandTexts_negated t⟩
  · rw [hnone (by simp [hnull]), hnull]
    exact fun t ht next => keeps_expect ht rfl next

/-- After an expression, a token that binds it throws nothing away. -/
theorem keeps_left {token : Token} (h : token.kind ∈ kinds) (hbinds : 0 < token.kind.bindingPower) {left : Tree}
    (hleft : left.Callable) (next : Token) : Keeps next left.operandTexts (token.leftProcedure left) := by
  have hmeans : token.kind.left ≠ .unexpected := by
    have hall : ∀ kind ∈ kinds, kind.left = .unexpected → kind.bindingPower = 0 := by decide
    intro hmeans
    rw [hall _ h hmeans] at hbinds
    exact absurd hbinds (by decide)
  unfold Token.leftProcedure
  rcases left_cases h with hkind | hkind | hkind | ⟨-, hkind⟩ | ⟨-, hkind⟩
  · exact absurd hkind hmeans
  · obtain ⟨op, hname⟩ := exists_operator_of_operation h hkind
    rw [hkind]
    intro right _ _
    rw [hname]
    exact ⟨Tree.callable_node _, Tree.operandTexts_binary op left right⟩
  · rw [hkind]
    exact fun right _ _ => ⟨Tree.callable_node _, Tree.operandTexts_assign left right⟩
  · rw [hkind]
    show Keeps next left.operandTexts (if Procedure.ends _ next then _ else _)
    split
    · refine ⟨Tree.callable_node _, ?_⟩
      rw [Tree.operandTexts_followedBy]
      exact List.append_nil _
    · intro right _ _
      refine ⟨Tree.callable_node _, ?_⟩
      -- where the right side is left out, it has failed and has no operands
      rw [Tree.operandTexts_followedBy, Tree.operandTextsOf_succeeded?]
  · rw [hkind]
    exact fun argument _ next => keeps_expect (Tree.callable_node _) (Tree.operandTexts_call hleft argument) next

/-! ### Traces -/

/-- What the stage begins with may be called and has the operands. -/
def BeginsWith (next : Token) (before : List String) : Stage → Prop
  | .expression _ => before = []
  | .extension _ operand => operand.Callable ∧ operand.operandTexts = before
  | .procedure steps => Keeps next before steps

/-- What a stage builds has the operands that it has begun with and the numbers and symbols that it has taken. -/
theorem operandTexts_of_traces {stage : Stage} {c c' : Context} {events : List Event} {t : Tree}
    (h : Traces stage c events t c') (hc : AllDistinct c) (hstage : stage.Nonneg)
    {before : List String} (hbefore : BeginsWith c.lookahead before stage) :
    t.Callable ∧ t.operandTexts = before ++ operandValues (taken events) := by
  induction h generalizing before with
  | @expression power c c' c'' inner more t u first further ihfirst ihmore =>
    have hskip := hc.of_leads c.leads_skip
    obtain ⟨ht, hfirst⟩ := ihfirst hskip hc.nonneg.lookahead.nullProcedure (keeps_null hc.lookahead _)
    obtain ⟨hu, hmore⟩ := ihmore (hskip.of_leads first.leads) hstage ⟨ht, rfl⟩
    obtain rfl : before = [] := hbefore
    refine ⟨hu, ?_⟩
    calc
      u.operandTexts = t.operandTexts ++ operandValues (taken more) := hmore
      _ = operandValues [c.lookahead] ++ operandValues (taken inner) ++ operandValues (taken more) := by rw [hfirst]
      _ = operandValues (c.lookahead :: (taken inner ++ taken more)) := by
        rw [operandValues_cons _ (_ ++ _), operandValues_append, List.append_assoc]
      _ = [] ++ operandValues (taken (.enter :: .first c.lookahead :: (inner ++ more) ++ [.leave])) := by simp
  | stop | give =>
    obtain ⟨ht, htexts⟩ := hbefore
    exact ⟨ht, by rw [htexts, taken_nil]; exact (List.append_nil _).symm⟩
  | @extend power c c' c'' inner more t u v tight next further ihnext ihmore =>
    have hskip := hc.of_leads c.leads_skip
    -- numbers and symbols bind nothing, so the token that goes on with the expression is none of them
    have hbinds : 0 < c.lookahead.kind.bindingPower := Int.lt_of_le_of_lt hstage tight
    have hnone : operandValues [c.lookahead] = [] := operandValues_of_not_isOperand
      (Token.not_isOperand_of (p := (0 < ·.bindingPower)) hbinds (by decide) (by decide))
    obtain ⟨ht, rfl⟩ := hbefore
    obtain ⟨hu, hnext⟩ := ihnext hskip (hc.nonneg.lookahead.leftProcedure (Int.le_of_lt hbinds) t)
      (keeps_left hc.lookahead.legible.kind_mem hbinds ht _)
    obtain ⟨hv, hmore⟩ := ihmore (hskip.of_leads next.leads) hstage ⟨hu, rfl⟩
    refine ⟨hv, ?_⟩
    rw [hmore, hnext, taken_further, taken_append, operandValues_cons, hnone, List.nil_append, operandValues_append,
      List.append_assoc]
  | report further ih => exact ih (hc.of_leads (Context.leads_add _ rfl)) hstage hbefore
  | @operand power next c c' c'' inner more t u operand further ihinner ihmore =>
    obtain ⟨ht, hinner⟩ := ihinner hc hstage.1 rfl
    obtain ⟨hu, hmore⟩ := ihmore (hc.of_leads operand.leads) (hstage.2 t) (hbefore t ht _)
    refine ⟨hu, ?_⟩
    rw [hmore, hinner, List.nil_append, taken_append, operandValues_append, List.append_assoc]
  | look further ih => exact ih hc (hstage _) hbefore
  | @skip next c c' events t further ih =>
    obtain ⟨hoperand, hnext⟩ := hbefore
    obtain ⟨ht, htexts⟩ := ih (hc.of_leads c.leads_skip) hstage (hnext _)
    refine ⟨ht, ?_⟩
    rw [htexts, taken_delimiter, operandValues_cons, operandValues_of_not_isOperand hoperand, List.nil_append]
  | items => exact hbefore.elim

/-! ### Whole expressions -/

/-- That something follows an expression is reported exactly if the input does not end behind it. -/
theorem trailingInput_iff {depth : Nat} {c c' : Context} {t : Tree} (hc : Tokenized c) (hclean : c.diagnostics = [])
    (h : Parse.wholeExpression depth c = .ok t c') :
    (∃ d ∈ c'.diagnostics, d.code = Diagnostic.trailingInput) ↔ ¬ c'.atEnd := by
  obtain ⟨context, hexpression, hlast⟩ := Parse.wholeExpression_eq_ok h
  have hruns := runs_of_expression hc.nonneg (Int.le_refl 0) hexpression
  have hinside : ∀ d ∈ context.diagnostics, d.code ≠ Diagnostic.trailingInput :=
    code_of_runs (· ≠ _) hruns (by decide) (by decide) hc trivial (by simp [hclean])
  rcases hlast with ⟨hend, rfl⟩ | ⟨hend, message, rfl⟩
  · refine iff_of_false ?_ (not_not_intro hend)
    rintro ⟨d, hmem, hcode⟩
    exact hinside d hmem hcode
  · exact iff_of_true ⟨_, List.mem_append_right _ (List.mem_singleton_self _), rfl⟩ hend

/-- From legible tokens, none of them a symbol that reads like the tag of a sequence, whatever their order: the operands
of the tree are the numbers and symbols that have been taken, in their order, and that something follows the expression
is reported exactly if not all tokens have been taken. -/
theorem operandTexts_of_wholeExpression {depth : Nat} {tokens : List Token} {t : Tree} {c : Context}
    (lexemes : ∀ token ∈ tokens, Lexeme token.kind token.value.toList)
    (untagged : ∀ token ∈ tokens, token.kind = .symbol → token.value ≠ Tree.sequenceLabel)
    (h : Parse.wholeExpression depth (.initial tokens) = .ok t c) :
    ∃ taken, (Context.initial tokens).Takes taken c ∧ taken.length = c.consumed ∧
      t.operandTexts = operandValues taken ∧
      ((∃ d ∈ c.diagnostics, d.code = Diagnostic.trailingInput) ↔ ¬ tokens <+: taken) := by
  have hdistinct := allDistinct_initial lexemes untagged
  have hkinds : ∀ token ∈ tokens, ¬ token.isEnd := by
    have hall : ∀ kind ∈ Kind.arithmetic, ¬ kind.isEnd := by decide
    exact fun token hmem => hall _ (lexemes token hmem).kind_mem
  obtain ⟨context, hexpression, hlast⟩ := Parse.wholeExpression_eq_ok h
  obtain ⟨events, htraces⟩ := (runs_of_expression hdistinct.nonneg (Int.le_refl 0) hexpression).exists_traces
  have htakes : (Context.initial tokens).Takes (taken events) c := by
    rcases hlast with ⟨-, rfl⟩ | ⟨-, message, rfl⟩
    · exact htraces.takes
    · have hreport : Parse.report Diagnostic.trailingInput message [] context =
          .ok () (context.add ⟨.error, Diagnostic.trailingInput, message, []⟩) := rfl
      simpa using htraces.takes.trans (.report hreport (.refl _))
  have hconsumed : c.consumed = 0 + (taken events).length := htakes.consumed_eq
  refine ⟨taken events, htakes, by omega, (operandTexts_of_traces htraces hdistinct (Int.le_refl 0) rfl).2, ?_⟩
  rw [trailingInput_iff hdistinct.allLegible.tokenized rfl h, htakes.atEnd_iff hkinds]

/-- The tokens of `f(-1 2`, where a parenthesis is missing and a number follows. -/
def unclosedCall : List Token :=
  [⟨.symbol, "f"⟩, ⟨.openParen, "("⟩, ⟨.minus, "-"⟩, ⟨.number, "1"⟩, ⟨.number, "2"⟩]

theorem operandTexts_of_wholeExpression_unclosedCall :
    (∀ token ∈ unclosedCall, Lexeme token.kind token.value.toList) ∧
      (∀ token ∈ unclosedCall, token.kind = .symbol → token.value ≠ Tree.sequenceLabel) ∧
      ∃ c taken, Parse.wholeExpression 3 (.initial unclosedCall) = .ok (.node [.atom "f", .atom "-1"]) c ∧
        (Context.initial unclosedCall).Takes taken c ∧ operandValues taken = ["f", "1"] ∧
        ∃ d ∈ c.diagnostics, d.code = Diagnostic.trailingInput := by
  have lexemes : ∀ token ∈ unclosedCall, Lexeme token.kind token.value.toList := by
    simp only [unclosedCall, List.forall_mem_cons, List.not_mem_nil, false_imp_iff, implies_true, and_true]
    exact ⟨.symbol (by decide) (List.forall_mem_nil _), .mark (by decide), .mark (by decide), .number (by decide),
      .number (by decide)⟩
  have untagged : ∀ token ∈ unclosedCall, token.kind = .symbol → token.value ≠ Tree.sequenceLabel := by decide
  obtain ⟨c, hrun, hconsumed⟩ : ∃ c, Parse.wholeExpression 3 (.initial unclosedCall) =
      .ok (.node [.atom "f", .atom "-1"]) c ∧ c.consumed = 4 := ⟨_, rfl, rfl⟩
  obtain ⟨taken, htakes, hlength, htexts, hleft⟩ := operandTexts_of_wholeExpression lexemes untagged hrun
  refine ⟨lexemes, untagged, c, taken, hrun, htakes, htexts.symm, hleft.mpr fun hall => ?_⟩
  have hle := hall.length_le
  rw [hlength, hconsumed] at hle
  exact absurd hle (by decide)

end Arithmetic

end Precedence
