import Precedence.Proofs.Arithmetic.Building

/-!
# Steps of arithmetic parses

The powers that the tokens of the grammar parse their operands with, and the codes of their reports (`all_null`,
`all_left`).  A number or a symbol asks for no operand, a sign for one of the power of signs, a parenthesis for a whole
expression, and any other operator for an operand of its own power.

So all problems that are found in a text, whatever it is, are errors with one of four codes (`code_of_parseResult`).
-/

namespace Precedence

namespace Procedure

/-- What is true of all powers of operands and of all codes of reports. -/
def All (power : Int → Prop) (code : String → Prop) : Procedure → Prop
  | give _ => True
  | report found _ _ next => code found ∧ next.All power code
  | operand found next => power found ∧ ∀ t, (next t).All power code
  | look next => ∀ token, (next token).All power code
  | skip next => next.All power code
  | items _ _ _ next => power 0 ∧ ∀ members, (next members).All power code

variable {power power' : Int → Prop} {code : String → Prop}

theorem All.imp {steps : Procedure} (h : steps.All power code) (hpower : ∀ p, power p → power' p) :
    steps.All power' code := by
  induction steps with
  | give => trivial
  | report _ _ _ next ih => exact ⟨h.1, ih h.2⟩
  | operand p next ih => exact ⟨hpower p h.1, fun t => ih t (h.2 t)⟩
  | look next ih => exact fun token => ih token (h token)
  | skip next ih => exact ih h
  | items _ _ _ next ih => exact ⟨hpower 0 h.1, fun members => ih members (h.2 members)⟩

theorem All.firstItem {separator close : Delimiter} {members : List Tree} {next : List Tree → Procedure}
    (h : (items separator close members next).All power code) :
    (firstItem separator close members next).All power code := by
  intro token
  show (if ends close token then _ else _ : Procedure).All power code
  split
  · exact h.2 members
  · refine ⟨h.1, fun t token => ?_⟩
    show (if token.is separator then _ else _ : Procedure).All power code
    split
    · exact h
    · exact h.2 _

theorem all_unexpected (hcode : code Diagnostic.unexpectedToken) (token : Token) (place : String) :
    (unexpected token place).All power code :=
  ⟨hcode, trivial⟩

theorem all_expect (hcode : code Diagnostic.expectedToken) {delimiter : Delimiter} {note : String} {next : Procedure}
    (h : next.All power code) : (expect delimiter note next).All power code := by
  intro token
  show (if token.is delimiter then _ else _ : Procedure).All power code
  split
  · exact h
  · exact ⟨hcode, h⟩

end Procedure

namespace Arithmetic

/-! ### What tokens mean -/

/-- The token is a sign. -/
def IsSign (token : Token) : Prop := token.kind = .plus ∨ token.kind = .minus

section

variable {power : Int → Prop} {code : String → Prop} {token : Token} (h : token.kind ∈ kinds)
  (hunexpected : code Diagnostic.unexpectedToken) (hexpected : code Diagnostic.expectedToken)
include h hunexpected hexpected

theorem all_null (hsign : IsSign token → power Kind.signPower) (hgroup : token.kind = .openParen → power 0) :
    token.nullProcedure.All power code := by
  unfold Token.nullProcedure
  rcases null_cases h with hnull | ⟨-, hnull⟩ | ⟨hkind, hnull⟩ | ⟨hkind, hnull⟩ | ⟨hkind, hnull⟩
  · rw [hnull]
    exact Procedure.all_unexpected hunexpected _ _
  · rw [hnull]
    trivial
  · rw [hnull]
    exact ⟨hsign (.inl hkind), fun _ => trivial⟩
  · rw [hnull]
    exact ⟨hsign (.inr hkind), fun _ => trivial⟩
  · rw [hnull]
    exact ⟨hgroup hkind, fun _ => Procedure.all_expect hexpected trivial⟩

theorem all_left (hoperator : token.kind ≠ .openParen → power token.kind.bindingPower)
    (hcall : token.kind = .openParen → power 0) (left : Tree) : (token.leftProcedure left).All power code := by
  have hother : token.kind.left ≠ Kind.openParen.left → token.kind ≠ .openParen := fun hne hkind => hne (by rw [hkind])
  unfold Token.leftProcedure
  rcases left_cases h with hleft | hleft | hleft | ⟨-, hleft⟩ | ⟨hkind, hleft⟩
  · rw [hleft]
    exact Procedure.all_unexpected hunexpected _ _
  · rw [hleft] at hother ⊢
    exact ⟨hoperator (hother (by decide)), fun _ => trivial⟩
  · rw [hleft] at hother ⊢
    exact ⟨hoperator (hother (by decide)), fun _ => trivial⟩
  · rw [hleft] at hother ⊢
    intro next
    show (if Procedure.ends _ next then _ else _ : Procedure).All power code
    split
    · trivial
    · exact ⟨hoperator (hother (by decide)), fun _ => trivial⟩
  · rw [hleft]
    exact ⟨hcall hkind, fun _ => Procedure.all_expect hexpected trivial⟩

end

/-! ### Codes -/

/-- The stage reports nothing with any other code. -/
def Coded (code : String → Prop) : Stage → Prop
  | .procedure steps => steps.All (fun _ => True) code
  | _ => True

/-- The codes of all reports are those of unexpected tokens and of missing delimiters. -/
theorem code_of_runs (code : String → Prop) {stage : Stage} {c c' : Context} {t : Tree} (h : Runs stage c t c')
    (hunexpected : code Diagnostic.unexpectedToken) (hexpected : code Diagnostic.expectedToken) (hc : Tokenized c)
    (hstage : Coded code stage) (hcodes : ∀ d ∈ c.diagnostics, code d.code) : ∀ d ∈ c'.diagnostics, code d.code := by
  induction h with
  | @expression power c c' c'' t u first more ihfirst ihmore =>
    have hnull : c.lookahead.nullProcedure.All (fun _ => True) code :=
      all_null hc.lookahead hunexpected hexpected (fun _ => trivial) fun _ => trivial
    exact ihmore (hc.skip.of_leads first.leads) trivial (ihfirst hc.skip hnull hcodes)
  | stop | give => exact hcodes
  | @extend power c c' c'' t u v tight next more ihnext ihmore =>
    have hleft : (c.lookahead.leftProcedure t).All (fun _ => True) code :=
      all_left hc.lookahead hunexpected hexpected (fun _ => trivial) (fun _ => trivial) t
    exact ihmore (hc.skip.of_leads next.leads) trivial (ihnext hc.skip hleft hcodes)
  | report _ ih =>
    refine ih (hc.of_leads (Context.leads_add _ rfl)) hstage.2 (List.forall_mem_append.mpr ⟨hcodes, ?_⟩)
    simpa using hstage.1
  | operand inner _ ihinner ihmore => exact ihmore (hc.of_leads inner.leads) (hstage.2 _) (ihinner hc trivial hcodes)
  | look _ ih => exact ih hc (hstage _) hcodes
  | skip _ ih => exact ih hc.skip hstage hcodes
  | items _ ih => exact ih hc (Procedure.All.firstItem hstage) hcodes

/-- The codes of the problems that are found in a text. -/
def codes : List String :=
  [Diagnostic.untokenizable, Diagnostic.unexpectedToken, Diagnostic.expectedToken, Diagnostic.trailingInput]

/-- All problems that are found in a text are errors with one of the codes. -/
theorem code_of_parseResult [Runtime] {strict : Bool} {source : String} {result : ParseResult}
    (h : (parser strict).parseResult source = .ok result) :
    ∀ d ∈ result.diagnostics, d.severity = .error ∧ d.code ∈ codes := by
  obtain ⟨tokens, left, context, htokens, hrun, hdiagnostics, -⟩ := parseResult_eq_ok_iff.mp h
  rw [parser_rules] at htokens
  have htokenized := (allLegible_initial htokens).tokenized
  have hseverity : ∀ d ∈ context.diagnostics, d.severity = .error := by
    obtain ⟨count, added, hcontext, hadded⟩ := (Parse.wholeExpression_steady Parse.depthLimit).leads hrun
    simpa [hcontext, Context.initial] using hadded
  obtain ⟨c, hexpression, hlast⟩ := Parse.wholeExpression_eq_ok hrun
  have hruns := runs_of_expression htokenized.nonneg (Int.le_refl 0) hexpression
  have hinside : ∀ d ∈ c.diagnostics, d.code ∈ codes :=
    code_of_runs (· ∈ codes) hruns (by decide) (by decide) htokenized trivial (List.forall_mem_nil _)
  have hcode : ∀ d ∈ context.diagnostics, d.code ∈ codes := by
    rcases hlast with ⟨-, rfl⟩ | ⟨-, message, rfl⟩
    · exact hinside
    · have htrailing : Diagnostic.trailingInput ∈ codes := by decide
      exact List.forall_mem_append.mpr ⟨hinside, by simpa using htrailing⟩
  have hleft : ∀ d ∈ (if left.isEmpty then [] else [untokenizable (parser strict).rules left]),
      d.severity = .error ∧ d.code ∈ codes := by
    have huntokenizable : Diagnostic.untokenizable ∈ codes := by decide
    split
    · simp
    · simpa [untokenizable] using huntokenizable
  rw [hdiagnostics]
  exact List.forall_mem_append.mpr ⟨hleft, fun d hd => ⟨hseverity d hd, hcode d hd⟩⟩

end Arithmetic

end Precedence
