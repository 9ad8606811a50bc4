import Precedence.Parse.Expression

/-!
# What a parse does to its state

Every step of a parse consumes tokens from the front and adds problems at the end: `Context.Leads`.  A step of which
this is true wherever it starts is `Steady`; the basic steps are, what is composed of steady steps is, and so is
`expression`, by induction on the depth (`expression_steady`).

As no operand makes the input longer, the loop over operators never runs out of room.  `Parse.loop_apply` states it
without room: it goes on with the next token as long as that binds more tightly than the power.
-/

namespace Precedence

namespace Context

/-- The state before the tokens of a text. -/
def initial (tokens : List Token) : Context := { rest := tokens ++ [.endOfInput] }

/-- The state behind the next tokens. -/
def drop (context : Context) (count : Nat) : Context :=
  { context with rest := context.rest.drop count, consumed := context.consumed + count }

@[simp] theorem drop_zero (c : Context) : c.drop 0 = c := rfl

theorem skip_eq_drop (c : Context) : c.skip = c.drop 1 := by
  simp [skip, drop]

@[simp] theorem drop_drop (c : Context) (m n : Nat) : (c.drop m).drop n = c.drop (m + n) := by
  simp [drop, Nat.add_assoc]

@[simp] theorem drop_rest (c : Context) (n : Nat) : (c.drop n).rest = c.rest.drop n := rfl

@[simp] theorem skip_rest (c : Context) : c.skip.rest = c.rest.tail := rfl

@[simp] theorem skip_consumed (c : Context) : c.skip.consumed = c.consumed + 1 := rfl

theorem drop_rest_of_append {c : Context} {u v : List Token} (h : c.rest = u ++ v) : (c.drop u.length).rest = v := by
  simp [h]

theorem drop_rest_of_cons {c : Context} {token : Token} {v : List Token} (h : c.rest = token :: v) :
    (c.drop 1).rest = v := by
  simp [h]

theorem lookahead_of_rest {c : Context} {token : Token} {v : List Token} (h : c.rest = token :: v) :
    c.lookahead = token := by
  simp [lookahead, h]

theorem lookahead_of_nil {c : Context} (h : c.rest = []) : c.lookahead = .endOfInput := by
  simp [lookahead, h]

/-- What is true of all tokens that are left and of the end of the input is true of the next token. -/
theorem lookahead_of_forall {p : Token → Prop} {c : Context} (h : ∀ token ∈ c.rest, p token) (hend : p .endOfInput) :
    p c.lookahead := by
  rcases hrest : c.rest with _ | ⟨token, rest⟩
  · rwa [lookahead_of_nil hrest]
  · rw [lookahead_of_rest hrest]
    exact h token (by simp [hrest])

/-- The second state is behind the first one: tokens have been consumed, and errors may have been added. -/
def Leads (c c' : Context) : Prop :=
  ∃ count added, c' = { c.drop count with diagnostics := c.diagnostics ++ added } ∧ ∀ d ∈ added, d.severity = .error

theorem Leads.refl (c : Context) : c.Leads c := ⟨0, [], by simp, by simp⟩

theorem Leads.trans {a b c : Context} (hab : a.Leads b) (hbc : b.Leads c) : a.Leads c := by
  obtain ⟨m, added, rfl, hadded⟩ := hab
  obtain ⟨n, more, rfl, hmore⟩ := hbc
  refine ⟨m + n, added ++ more, ?_, List.forall_mem_append.mpr ⟨hadded, hmore⟩⟩
  simp [drop, Nat.add_assoc]

theorem leads_skip (c : Context) : c.Leads c.skip :=
  ⟨1, [], by simp [skip, drop], by simp⟩

theorem leads_add (c : Context) {d : Diagnostic} (h : d.severity = .error) : c.Leads (c.add d) :=
  ⟨0, [d], rfl, by simpa using h⟩

theorem Leads.length_rest_le {c c' : Context} (h : c.Leads c') : c'.rest.length ≤ c.rest.length := by
  obtain ⟨n, added, rfl, -⟩ := h
  simp

theorem Leads.mem_rest {c c' : Context} (h : c.Leads c') {token : Token} (hmem : token ∈ c'.rest) :
    token ∈ c.rest := by
  obtain ⟨n, added, rfl, -⟩ := h
  exact List.mem_of_mem_drop hmem

theorem Leads.diagnostics_prefix {c c' : Context} (h : c.Leads c') : c.diagnostics <+: c'.diagnostics := by
  obtain ⟨n, added, rfl, -⟩ := h
  exact List.prefix_append _ _

/-- Where there is no error in the end, nothing has been reported. -/
theorem Leads.diagnostics_eq_of_hasErrors {c c' : Context} (h : c.Leads c') (hc' : ¬ hasErrors c'.diagnostics) :
    c'.diagnostics = c.diagnostics := by
  obtain ⟨n, added, rfl, hadded⟩ := h
  cases added with
  | nil => simp
  | cons d added =>
    have hd := hadded d List.mem_cons_self
    simp [hasErrors, Diagnostic.isError, hd] at hc'

/-- Nothing is reported on the way if nothing has been reported in the end. -/
theorem Leads.diagnostics_eq_left {a b c : Context} (hab : a.Leads b) (hbc : b.Leads c)
    (h : c.diagnostics = a.diagnostics) : b.diagnostics = a.diagnostics := by
  have h1 := hab.diagnostics_prefix
  have h2 := hbc.diagnostics_prefix
  rw [h] at h2
  exact (h1.eq_of_length_le h2.length_le).symm

theorem diagnostics_add_ne {c c' : Context} {d : Diagnostic} (h : (c.add d).Leads c') :
    c'.diagnostics ≠ c.diagnostics := by
  intro heq
  have hle := h.diagnostics_prefix.length_le
  rw [heq, add, List.length_append, List.length_singleton] at hle
  omega

end Context

namespace Parse

/-! ### Steady steps -/

/-- A step that leads on from every state, also where it fails. -/
def Steady {α : Type} (step : Parse α) : Prop :=
  ∀ c, match step c with
    | .ok _ c' => c.Leads c'
    | .error _ c' => c.Leads c'

theorem Steady.leads {α : Type} {step : Parse α} (h : Steady step) {c c' : Context} {a : α}
    (hrun : step c = .ok a c') : c.Leads c' := by
  have := h c
  rw [hrun] at this
  exact this

theorem bind_apply {α β : Type} (step : Parse α) (next : α → Parse β) (c : Context) :
    (step >>= next) c = match step c with
      | .ok a c' => next a c'
      | .error e c' => .error e c' := by
  show EStateM.bind step next c = _
  unfold EStateM.bind
  cases step c <;> rfl

theorem bind_eq_ok {α β : Type} {step : Parse α} {next : α → Parse β} {c c'' : Context} {b : β}
    (h : (step >>= next) c = .ok b c'') : ∃ a c', step c = .ok a c' ∧ next a c' = .ok b c'' := by
  rw [bind_apply] at h
  cases hstep : step c with
  | ok a c' =>
    rw [hstep] at h
    exact ⟨a, c', rfl, h⟩
  | error e c' =>
    rw [hstep] at h
    cases h

theorem Steady.pure {α : Type} (a : α) : Steady (Pure.pure a : Parse α) := fun c => Context.Leads.refl c

theorem Steady.bind {α β : Type} {step : Parse α} {next : α → Parse β} (h : Steady step)
    (hnext : ∀ a, Steady (next a)) : Steady (step >>= next) := by
  intro c
  rw [bind_apply]
  have hc := h c
  cases hstep : step c with
  | error e c' =>
    rw [hstep] at hc
    exact hc
  | ok a c' =>
    rw [hstep] at hc
    have hc' := hnext a c'
    show match next a c' with
      | .ok _ c'' => c.Leads c''
      | .error _ c'' => c.Leads c''
    cases hrest : next a c' with
    | ok b c'' =>
      rw [hrest] at hc'
      exact hc.trans hc'
    | error e c'' =>
      rw [hrest] at hc'
      exact hc.trans hc'

theorem lookahead_steady : Steady lookahead := fun c => Context.Leads.refl c

theorem get_steady : Steady (get : Parse Context) := fun c => Context.Leads.refl c

theorem advance_steady : Steady advance := fun c => c.leads_skip

theorem report_steady (code message : String) (notes : List String) : Steady (report code message notes) :=
  fun c => c.leads_add rfl

/-- The report on a token that comes where the delimiter is expected. -/
def missing (delimiter : Delimiter) (note : String) (token : Token) : Diagnostic where
  severity := .error
  code := Diagnostic.expectedToken
  message := "expected " ++ delimiter.name ++ ", got " ++ shown token
  notes := if note = "" then [] else [note]

/-- An expected delimiter is consumed, and any other token is reported and stays. -/
theorem expect_apply (delimiter : Delimiter) (note : String) (c : Context) : expect delimiter note c =
    if c.lookahead.is delimiter then .ok (some c.lookahead) c.skip
    else .ok none (c.add (missing delimiter note c.lookahead)) := by
  show (if c.lookahead.is delimiter then _ else _ : Parse (Option Token)) c = _
  split <;> rfl

theorem expect_steady (delimiter : Delimiter) (note : String) : Steady (expect delimiter note) := by
  refine lookahead_steady.bind fun next => ?_
  split
  · exact advance_steady.bind fun token => .pure _
  · exact (report_steady _ _ _).bind fun _ => .pure _

theorem unexpected_steady (token : Token) (place : String) : Steady (unexpected token place) :=
  (report_steady _ _ _).bind fun _ => .pure _

section

variable {parse : Int → Parse Tree} (hparse : ∀ power, Steady (parse power))
include hparse

theorem items_steady (separator close : Delimiter) (room : List Token) :
    Steady (items parse separator close room) := by
  induction room with
  | nil => exact .pure _
  | cons _ room ih =>
    refine lookahead_steady.bind fun next => ?_
    split
    · exact .pure _
    · refine (hparse 0).bind fun item => lookahead_steady.bind fun next => ?_
      split
      · exact advance_steady.bind fun _ => ih.bind fun _ => .pure _
      · exact .pure _

theorem parseNull_steady (token : Token) : Steady (token.parseNull parse) := by
  unfold Token.parseNull NullDenotation.run
  split
  · exact unexpected_steady _ _
  · exact .pure _
  · exact .pure _
  · exact hparse _
  · exact (hparse _).bind fun _ => .pure _
  · exact (hparse _).bind fun _ => .pure _
  · exact (hparse _).bind fun _ => (expect_steady _ _).bind fun _ => .pure _
  · exact (report_steady _ _ _).bind fun _ => .pure _
  · exact get_steady.bind fun c => (items_steady hparse _ _ _).bind fun _ => (expect_steady _ _).bind fun _ => .pure _

theorem parseLeft_steady (token : Token) (left : Tree) : Steady (token.parseLeft parse left) := by
  unfold Token.parseLeft LeftDenotation.run
  split
  · exact unexpected_steady _ _
  · exact (hparse _).bind fun _ => .pure _
  · exact (hparse _).bind fun _ => .pure _
  · exact (hparse _).bind fun _ => .pure _
  · refine lookahead_steady.bind fun next => ?_
    split
    · exact .pure _
    · exact (hparse _).bind fun _ => .pure _
  · exact (hparse _).bind fun _ => (expect_steady _ _).bind fun _ => .pure _
  · exact .pure _
  · exact (hparse _).bind fun _ => (expect_steady _ _).bind fun _ => (hparse _).bind fun _ => .pure _
  · exact (hparse _).bind fun _ => (expect_steady _ _).bind fun _ => .pure _

theorem extend_steady (power : Int) (room : List Token) (left : Tree) :
    Steady (extend parse power room left) := by
  induction room generalizing left with
  | nil => exact .pure _
  | cons _ room ih =>
    refine lookahead_steady.bind fun next => ?_
    split
    · exact advance_steady.bind fun token => (parseLeft_steady hparse token left).bind ih
    · exact .pure _

end

/-- Every parse of an expression leads on. -/
theorem expression_steady (depth : Nat) (power : Int) : Steady (expression depth power) := by
  induction depth generalizing power with
  | zero => exact fun c => Context.Leads.refl c
  | succ depth ih =>
    exact advance_steady.bind fun token => (parseNull_steady ih token).bind fun left =>
      get_steady.bind fun c => extend_steady ih power c.rest left

/-! ### The loop over operators -/

/-- Extend an expression by what is left of the input. -/
def loop (parse : Int → Parse Tree) (power : Int) (left : Tree) : Parse Tree := do
  extend parse power (← get).rest left

theorem loop_steady {parse : Int → Parse Tree} (hparse : ∀ power, Steady (parse power)) (power : Int) (left : Tree) :
    Steady (loop parse power left) :=
  get_steady.bind fun c => extend_steady hparse power c.rest left

theorem rest_length_pos {c : Context} {power : Int} (hpower : 0 ≤ power)
    (h : power < c.lookahead.kind.bindingPower) : 0 < c.rest.length := by
  rcases hrest : c.rest with _ | ⟨token, rest⟩
  · rw [Context.lookahead_of_nil hrest] at h
    exact absurd (show power < 0 from h) (by omega)
  · simp

theorem extend_nil_apply (parse : Int → Parse Tree) (power : Int) (left : Tree) (c : Context) :
    extend parse power [] left c = .ok left c := rfl

theorem extend_cons_apply (parse : Int → Parse Tree) (power : Int) (token : Token) (room : List Token) (left : Tree)
    (c : Context) :
    extend parse power (token :: room) left c =
      if power < c.lookahead.kind.bindingPower then
        (c.lookahead.parseLeft parse left >>= extend parse power room) c.skip
      else .ok left c := by
  show (if power < c.lookahead.kind.bindingPower then _ else _ : Parse Tree) c = _
  split <;> rfl

/-- The room makes no difference if it has a place for each of the tokens that are left. -/
theorem extend_congr_room {parse : Int → Parse Tree} (hparse : ∀ power, Steady (parse power)) {power : Int}
    (hpower : 0 ≤ power) {r₁ r₂ : List Token} {c : Context} (h₁ : c.rest.length ≤ r₁.length)
    (h₂ : c.rest.length ≤ r₂.length) (left : Tree) :
    extend parse power r₁ left c = extend parse power r₂ left c := by
  induction r₁ generalizing r₂ c left with
  | nil =>
    have hc : c.rest = [] := List.eq_nil_of_length_eq_zero (by simpa using h₁)
    -- the end of the input does not bind
    have hle : ¬ power < c.lookahead.kind.bindingPower := fun hlt => by
      have := rest_length_pos hpower hlt
      simp [hc] at this
    cases r₂ with
    | nil => rfl
    | cons token r₂ => rw [extend_nil_apply, extend_cons_apply, if_neg hle]
  | cons token r₁ ih =>
    cases r₂ with
    | nil =>
      have hc : c.rest = [] := List.eq_nil_of_length_eq_zero (by simpa using h₂)
      rw [extend_nil_apply, extend_cons_apply, if_neg]
      intro hlt
      have := rest_length_pos hpower hlt
      simp [hc] at this
    | cons token' r₂ =>
      rw [extend_cons_apply, extend_cons_apply]
      split
      · rename_i hlt
        rw [bind_apply, bind_apply]
        cases hleft : c.lookahead.parseLeft parse left c.skip with
        | error e c' => rfl
        | ok t c' =>
          -- a place of the room is given up for the operator, and the operator is a token less
          have hlen := ((parseLeft_steady hparse _ _).leads hleft).length_rest_le
          have hpos := rest_length_pos hpower hlt
          simp only [Context.skip_rest, List.length_tail] at hlen
          simp only [List.length_cons] at h₁ h₂
          exact ih (by omega) (by omega) t
      · rfl

/-- The loop takes the next token if it binds more tightly than the power, and then goes on. -/
theorem loop_apply {parse : Int → Parse Tree} (hparse : ∀ power, Steady (parse power)) {power : Int}
    (hpower : 0 ≤ power) (left : Tree) (c : Context) :
    loop parse power left c =
      if power < c.lookahead.kind.bindingPower then
        (c.lookahead.parseLeft parse left >>= loop parse power) c.skip
      else .ok left c := by
  show extend parse power c.rest left c = _
  have hroom : extend parse power c.rest left c = extend parse power (.endOfInput :: c.rest) left c :=
    extend_congr_room hparse hpower (Nat.le_refl _) (by simp) left
  rw [hroom, extend_cons_apply]
  split
  · rw [bind_apply, bind_apply]
    cases hleft : c.lookahead.parseLeft parse left c.skip with
    | error e c' => rfl
    | ok t c' =>
      have hlen := ((parseLeft_steady hparse _ _).leads hleft).length_rest_le
      simp only [Context.skip_rest, List.length_tail] at hlen
      exact extend_congr_room hparse hpower (by omega) (Nat.le_refl _) t
  · rfl

theorem expression_succ_apply (depth : Nat) (power : Int) (c : Context) :
    expression (depth + 1) power c =
      (c.lookahead.parseNull (expression depth) >>= loop (expression depth) power) c.skip := rfl

end Parse

end Precedence
