import Precedence.Proofs.Parse.Consumption
import Precedence.Proofs.Parse.Procedure

/-!
# Sessions

A parse may be used from outside, one request after the other: to take the next token, to expect a delimiter, to parse
an expression, to report an error, or to parse what some token means (`Request`).  A session is a list of such requests,
each with its answer and with the states before and after it (`Session`).

Whatever is asked for, the state is at a position in the tokens that the session has begun with: the tokens before it
have been taken in their order, and the token there comes next (`Context.IsAt`).  Every request moves the position
forward or leaves it where it is, each kind of them in its way (`Exchange.moves_of_run`), and so it is all along a
session (`session_keeps_position`).
-/

namespace Precedence

open Parse

/-! ### Positions -/

/-- The token at the position.  Behind the list there are ends of the input. -/
def tokenAt (tokens : List Token) (position : Nat) : Token := tokens.getD position .endOfInput

namespace Context

/-- The state before the first of the tokens. -/
def start (tokens : List Token) : Context := { rest := tokens }

/-- The tokens before the position have been taken, in their order, and the token at the position comes next. -/
structure IsAt (tokens : List Token) (position : Nat) (c : Context) : Prop where
  takes : (start tokens).Takes ((List.range position).map (tokenAt tokens)) c
  lookahead_eq : c.lookahead = tokenAt tokens position

theorem lookahead_drop_start (tokens : List Token) (position : Nat) :
    ((start tokens).drop position).lookahead = tokenAt tokens position := by
  simp [lookahead, drop, start, tokenAt, List.headD_eq_head?_getD, List.head?_drop]

/-- What is reached from the beginning of the tokens is at the position that has been counted. -/
theorem Leads.isAt {tokens : List Token} {c : Context} (h : (start tokens).Leads c) : c.IsAt tokens c.consumed := by
  obtain ⟨count, added, rfl, hadded⟩ := h
  have hcount : ((start tokens).drop count).consumed = count := Nat.zero_add count
  have htaken := ((start tokens).takes_drop count).trans (((start tokens).drop count).takes_reports hadded)
  simp only [lookahead_drop_start, List.append_nil] at htaken
  show IsAt tokens ((start tokens).drop count).consumed _
  rw [hcount]
  exact ⟨htaken, lookahead_drop_start tokens count⟩

theorem Leads.consumed_le {c c' : Context} (h : c.Leads c') : c.consumed ≤ c'.consumed := by
  obtain ⟨count, added, rfl, -⟩ := h
  exact Nat.le_add_right _ _

end Context

/-! ### Requests -/

/-- What a parse can be asked for. -/
inductive Request where
  /-- The next token. -/
  | advance
  /-- The next token, if it is the delimiter. -/
  | expect (delimiter : Delimiter) (note : String)
  /-- An expression with the power. -/
  | expression (power : Int)
  /-- A report of an error. -/
  | report (code message : String) (notes : List String)
  /-- What the token means at the start of an expression. -/
  | null (token : Token)
  /-- What the token means after an expression. -/
  | left (token : Token) (operand : Tree)

/-- What a parse answers. -/
inductive Answer where
  | token (token : Token)
  /-- The delimiter does not come next. -/
  | missing
  | tree (t : Tree)
  | reported

namespace Request

/-- Do what is asked for, with expressions to the given depth. -/
def run (depth : Nat) : Request → Parse Answer
  | advance => return .token (← Parse.advance)
  | expect delimiter note => return match ← Parse.expect delimiter note with
    | some token => .token token
    | none => .missing
  | expression power => return .tree (← Parse.expression depth power)
  | report code message notes => do
    Parse.report code message notes
    return .reported
  | null token => return .tree (← token.parseNull (Parse.expression depth))
  | left token operand => return .tree (← token.parseLeft (Parse.expression depth) operand)

theorem run_steady (depth : Nat) (request : Request) : Steady (request.run depth) := by
  cases request with
  | advance => exact advance_steady.bind fun _ => .pure _
  | expect delimiter note => exact (expect_steady delimiter note).bind fun _ => .pure _
  | expression power => exact (expression_steady depth power).bind fun _ => .pure _
  | report code message notes => exact (report_steady code message notes).bind fun _ => .pure _
  | null token => exact (parseNull_steady (expression_steady depth) token).bind fun _ => .pure _
  | left token operand => exact (parseLeft_steady (expression_steady depth) token operand).bind fun _ => .pure _

end Request

/-! ### Exchanges -/

/-- A request with its answer, and the states before and after it. -/
structure Exchange where
  request : Request
  before : Context
  answer : Answer
  after : Context

namespace Exchange

/-- The answer to each kind of request, and how it moves the position in the tokens. -/
def Moves (tokens : List Token) (e : Exchange) : Prop :=
  let next := tokenAt tokens e.before.consumed
  match e.request with
  | .advance => e.answer = .token next ∧ e.after.consumed = e.before.consumed + 1
  | .expect delimiter note =>
    next.is delimiter ∧ e.answer = .token next ∧ e.after.consumed = e.before.consumed + 1 ∨
      ¬ next.is delimiter ∧ e.answer = .missing ∧ e.after.consumed = e.before.consumed ∧
        e.after.lookahead = e.before.lookahead ∧
        e.after.diagnostics = e.before.diagnostics ++ [missing delimiter note next]
  | .expression _ => e.before.consumed < e.after.consumed
  | .report code message notes => e.after.consumed = e.before.consumed ∧
      e.after.diagnostics = e.before.diagnostics ++ [⟨.error, code, message, notes⟩]
  | .null _ | .left _ _ => True

theorem moves_of_run {tokens : List Token} {depth : Nat} {request : Request} {answer : Answer} {c c' : Context}
    (hc : c.lookahead = tokenAt tokens c.consumed) (h : request.run depth c = .ok answer c') :
    Moves tokens ⟨request, c, answer, c'⟩ := by
  cases request with
  | advance =>
    cases h
    exact ⟨congrArg Answer.token hc, rfl⟩
  | expect delimiter note =>
    obtain ⟨found, context, hrun, hanswer⟩ := bind_eq_ok h
    rw [expect_apply] at hrun
    simp only [Moves, ← hc]
    by_cases his : c.lookahead.is delimiter
    · rw [if_pos his] at hrun
      cases hrun
      cases hanswer
      exact .inl ⟨his, rfl, rfl⟩
    · rw [if_neg his] at hrun
      cases hrun
      cases hanswer
      exact .inr ⟨his, rfl, rfl, rfl, rfl⟩
  | expression power =>
    obtain ⟨t, context, hrun, hanswer⟩ := bind_eq_ok h
    cases hanswer
    exact ((expression_consuming depth).leads_skip hrun).consumed_le
  | report code message notes =>
    cases h
    exact ⟨rfl, rfl⟩
  | null token => trivial
  | left token operand => trivial

/-- The exchange goes from one position in the tokens on to another one, and keeps what has been reported. -/
structure Keeps (tokens : List Token) (e : Exchange) : Prop where
  before : e.before.IsAt tokens e.before.consumed
  after : e.after.IsAt tokens e.after.consumed
  consumed_le : e.before.consumed ≤ e.after.consumed
  diagnostics : e.before.diagnostics <+: e.after.diagnostics
  moves : e.Moves tokens

theorem keeps_of_run {tokens : List Token} {depth : Nat} {request : Request} {answer : Answer} {c c' : Context}
    (hc : (Context.start tokens).Leads c) (h : request.run depth c = .ok answer c') :
    Keeps tokens ⟨request, c, answer, c'⟩ := by
  have hleads : c.Leads c' := (request.run_steady depth).leads h
  exact {
    before := hc.isAt
    after := (hc.trans hleads).isAt
    consumed_le := hleads.consumed_le
    diagnostics := hleads.diagnostics_prefix
    moves := moves_of_run hc.isAt.lookahead_eq h }

end Exchange

/-! ### Sessions -/

/-- The requests are answered one after the other, each in the state that the one before it has left.  None of them
fails since it is nested too deeply. -/
inductive Session (depth : Nat) : Context → List Exchange → Context → Prop
  | nil (c : Context) : Session depth c [] c
  | cons {request : Request} {answer : Answer} {c c' c'' : Context} {exchanges : List Exchange}
      (answered : request.run depth c = .ok answer c') (more : Session depth c' exchanges c'') :
      Session depth c (⟨request, c, answer, c'⟩ :: exchanges) c''

namespace Session

variable {depth : Nat} {exchanges : List Exchange} {c c' : Context}

theorem leads (h : Session depth c exchanges c') : c.Leads c' := by
  induction h with
  | nil c => exact .refl c
  | cons answered _ ih => exact ((Request.run_steady depth _).leads answered).trans ih

theorem keeps {tokens : List Token} (h : Session depth c exchanges c') (hc : (Context.start tokens).Leads c) :
    ∀ e ∈ exchanges, e.Keeps tokens := by
  induction h with
  | nil => exact List.forall_mem_nil _
  | cons answered _ ih =>
    have hleads := (Request.run_steady depth _).leads answered
    exact List.forall_mem_cons.mpr ⟨Exchange.keeps_of_run hc answered, ih (hc.trans hleads)⟩

end Session

/-- All along a session the state is at a position in the tokens, the number of tokens that have been taken.  The
position never goes back, a request for a token gives the one at the position, and what has been reported stays in
front of what is reported later. -/
theorem session_keeps_position {tokens : List Token} {depth : Nat} {exchanges : List Exchange} {c : Context}
    (h : Session depth (.start tokens) exchanges c) :
    c.IsAt tokens c.consumed ∧ ∀ e ∈ exchanges, e.Keeps tokens :=
  ⟨h.leads.isAt, h.keeps (.refl _)⟩

/-- What is asked for over the tokens of `2)`: an expression, an end that does not come, what comes instead, and the end
behind it. -/
def endedByParenthesis : List Request :=
  [.expression 0, .expect Kind.endOfInput.delimiter "", .advance, .expect Kind.endOfInput.delimiter ""]

theorem session_keeps_position_unopened : ∃ exchanges c, Session 1 (.start unopened) exchanges c ∧
    exchanges.map Exchange.request = endedByParenthesis ∧
    exchanges.map Exchange.answer = [.tree (.atom "2"), .missing, .token ⟨.closeParen, ")"⟩, .token .endOfInput] ∧
    c.IsAt unopened 3 ∧ ∀ e ∈ exchanges, e.Keeps unopened := by
  obtain ⟨exchanges, c, hsession, hrequests, hanswers, hconsumed⟩ : ∃ exchanges c,
      Session 1 (.start unopened) exchanges c ∧ exchanges.map Exchange.request = endedByParenthesis ∧
      exchanges.map Exchange.answer = [.tree (.atom "2"), .missing, .token ⟨.closeParen, ")"⟩, .token .endOfInput] ∧
      c.consumed = 3 :=
    ⟨_, _, .cons rfl (.cons rfl (.cons rfl (.cons rfl (.nil _)))), rfl, rfl, rfl⟩
  have hkeeps := session_keeps_position hsession
  rw [hconsumed] at hkeeps
  exact ⟨exchanges, c, hsession, hrequests, hanswers, hkeeps⟩

end Precedence
