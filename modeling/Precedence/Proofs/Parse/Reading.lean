import Precedence.Proofs.Parse.Progress

/-!
# Readings: parses in which nothing is reported

`Reads` says how an expression is read if nothing goes wrong on the way: by rules, one for each thing a token may mean,
in place of a program.  It covers the meanings that operators, groups, calls and statements have.

* (complete) Where there is a reading, the parse gives it, unless the nesting is too deep (`Reads.settles`); and it is
  not too deep if the depth is large enough.  So a reading is unique (`Reads.unique`).
* (sound) A parse that reports nothing is a reading, if all tokens have regular meanings (`reads_of_expression`).
-/

namespace Precedence

/-- The tag and the power for the right operand, if tokens of the kind are operators between two operands. -/
def Kind.infixOperator? (kind : Kind) : Option (String × Int) :=
  match kind.left with
  | .binary label power => some (label, power)
  | .operation => some (kind.name, kind.bindingPower)
  | .assignment => some (Tree.assignLabel, kind.bindingPower)
  | _ => none

/-- A part of an expression that is to be read. -/
inductive Part where
  /-- A whole expression. -/
  | expression (power : Int)
  /-- What begins with the token that has been consumed last. -/
  | null (token : Token)
  /-- What goes on with the token that has been consumed last. -/
  | left (token : Token) (operand : Tree)
  /-- Further operators after an operand. -/
  | extension (power : Int) (operand : Tree)

/-- The part can be read in the first state, as the tree, up to the second state. -/
inductive Reads : Part → Context → Tree → Context → Prop
  | expression {power : Int} {c c' c'' : Context} {t u : Tree} (nonneg : 0 ≤ power)
      (first : Reads (.null c.lookahead) c.skip t c') (more : Reads (.extension power t) c' u c'') :
      Reads (.expression power) c u c''
  | stop {power : Int} {c : Context} {t : Tree} (weak : c.lookahead.kind.bindingPower ≤ power) :
      Reads (.extension power t) c t c
  | extend {power : Int} {c c' c'' : Context} {t u v : Tree} (tight : power < c.lookahead.kind.bindingPower)
      (next : Reads (.left c.lookahead t) c.skip u c') (more : Reads (.extension power u) c' v c'') :
      Reads (.extension power t) c v c''
  | value {token : Token} {c : Context} (means : token.kind.null = .value) :
      Reads (.null token) c (.atom token.value) c
  | operand {token : Token} {power : Int} {c c' : Context} {t : Tree} (means : token.kind.null = .operand power)
      (inner : Reads (.expression power) c t c') : Reads (.null token) c t c'
  | negation {token : Token} {power : Int} {c c' : Context} {t : Tree} (means : token.kind.null = .negation power)
      (inner : Reads (.expression power) c t c') : Reads (.null token) c t.negated c'
  | labelled {token : Token} {label : String} {power : Int} {c c' : Context} {t : Tree}
      (means : token.kind.null = .labelled label power) (inner : Reads (.expression power) c t c') :
      Reads (.null token) c (.node [.atom label, t]) c'
  | group {token : Token} {close : Delimiter} {note : String} {c c' : Context} {t : Tree}
      (means : token.kind.null = .group close note) (inner : Reads (.expression 0) c t c')
      (closed : c'.lookahead.is close) : Reads (.null token) c t c'.skip
  | binary {token : Token} {label : String} {power : Int} {c c' : Context} {t u : Tree}
      (means : token.kind.infixOperator? = some (label, power)) (inner : Reads (.expression power) c u c') :
      Reads (.left token t) c (.node [.atom label, t, u]) c'
  | trailing {token : Token} {close : Delimiter} {c : Context} {t : Tree} (means : token.kind.left = .sequence close)
      (ends : c.lookahead.isEnd || c.lookahead.is close) : Reads (.left token t) c (t.followedBy none) c
  | statement {token : Token} {close : Delimiter} {c c' : Context} {t u : Tree}
      (means : token.kind.left = .sequence close) (goesOn : ¬ (c.lookahead.isEnd || c.lookahead.is close))
      (inner : Reads (.expression token.kind.bindingPower) c u c') :
      Reads (.left token t) c (t.followedBy u.succeeded?) c'
  | call {token : Token} {close : Delimiter} {note : String} {c c' : Context} {t u : Tree}
      (means : token.kind.left = .call close note) (inner : Reads (.expression 0) c u c')
      (closed : c'.lookahead.is close) : Reads (.left token t) c (.node [t, u]) c'.skip

namespace Reads

variable {power : Int} {c c' c'' : Context} {token : Token} {v : List Token} {t u w : Tree}

theorem expression_of_rest (hpower : 0 ≤ power) (hrest : c.rest = token :: v)
    (first : Reads (.null token) (c.drop 1) t c') (more : Reads (.extension power t) c' u c'') :
    Reads (.expression power) c u c'' := by
  refine .expression hpower ?_ more
  rw [Context.lookahead_of_rest hrest, c.skip_eq_drop]
  exact first

theorem extend_of_rest (hrest : c.rest = token :: v) (tight : power < token.kind.bindingPower)
    (next : Reads (.left token t) (c.drop 1) u c') (more : Reads (.extension power u) c' w c'') :
    Reads (.extension power t) c w c'' := by
  rw [← Context.lookahead_of_rest hrest] at tight next
  rw [← c.skip_eq_drop] at next
  exact .extend tight next more

theorem stop_of_rest (hrest : c.rest = v) (weak : (v.headD .endOfInput).kind.bindingPower ≤ power) :
    Reads (.extension power t) c t c :=
  .stop (by rw [Context.lookahead, hrest]; exact weak)

/-- What has been read begins with a token. -/
theorem rest_ne_nil (h : Reads (.expression power) c t c') : c.rest ≠ [] := by
  intro hnil
  cases h with
  | expression _ first =>
    rw [Context.lookahead_of_nil hnil] at first
    -- the end of the input means nothing at the start of an expression
    cases first with
    | value means | operand means | negation means | labelled means | group means => cases means

end Reads

namespace Part

/-- Parse a part, given how expressions inside of it are parsed. -/
def run (parse : Int → Parse Tree) : Part → Parse Tree
  | expression power => do Parse.loop parse power (← (← Parse.advance).parseNull parse)
  | null token => token.parseNull parse
  | left token operand => token.parseLeft parse operand
  | extension power operand => Parse.loop parse power operand

end Part

namespace Parse

/-! ### Parses to any depth -/

/-- The parse to a given depth ends in the tree and the state, or it fails since the depth is too small; from some depth
on it does not fail. -/
structure Settles {α : Type} (parse : Nat → Parse α) (c : Context) (a : α) (c' : Context) : Prop where
  ok_or_error : ∀ depth, parse depth c = .ok a c' ∨ ∃ c'', parse depth c = .error ⟨⟩ c''
  eventually : ∃ bound, ∀ depth, bound ≤ depth → parse depth c = .ok a c'

theorem Settles.pure {α : Type} (a : α) (c : Context) : Settles (fun _ => Pure.pure a) c a c :=
  ⟨fun _ => .inl rfl, 0, fun _ _ => rfl⟩

theorem Settles.bind {α β : Type} {parse : Nat → Parse α} {next : Nat → α → Parse β} {c c' c'' : Context} {a : α}
    {b : β} (h : Settles parse c a c') (hnext : Settles (fun depth => next depth a) c' b c'') :
    Settles (fun depth => parse depth >>= next depth) c b c'' := by
  constructor
  · intro depth
    show (parse depth >>= next depth) c = _ ∨ ∃ c₀, (parse depth >>= next depth) c = _
    rw [bind_apply]
    rcases h.ok_or_error depth with hok | ⟨c₀, herr⟩
    · rw [hok]
      exact hnext.ok_or_error depth
    · rw [herr]
      exact .inr ⟨c₀, rfl⟩
  · obtain ⟨m, hm⟩ := h.eventually
    obtain ⟨n, hn⟩ := hnext.eventually
    -- a depth that is enough for both
    refine ⟨max m n, fun depth hdepth => ?_⟩
    show (parse depth >>= next depth) c = _
    rw [bind_apply, hm depth (by omega)]
    exact hn depth (by omega)

theorem Settles.map {α β : Type} {parse : Nat → Parse α} {c c' : Context} {a : α} (f : α → β)
    (h : Settles parse c a c') : Settles (fun depth => do return f (← parse depth)) c (f a) c' :=
  h.bind (.pure (f a) c')

/-- A step that does not depend on the depth. -/
theorem Settles.of_run {α : Type} {step : Parse α} {c c' : Context} {a : α} (h : step c = .ok a c') :
    Settles (fun _ => step) c a c' :=
  ⟨fun _ => .inl h, 0, fun _ _ => h⟩

theorem Settles.advance (c : Context) : Settles (fun _ => Parse.advance) c c.lookahead c.skip := .of_run rfl

theorem Settles.lookahead (c : Context) : Settles (fun _ => Parse.lookahead) c c.lookahead c := .of_run rfl

theorem Settles.congr {α : Type} {parse parse' : Nat → Parse α} {c c₀ c' : Context} {a : α}
    (heq : ∀ depth, parse' depth c₀ = parse depth c) (h : Settles parse c a c') : Settles parse' c₀ a c' := by
  obtain ⟨bound, hbound⟩ := h.eventually
  refine ⟨fun depth => ?_, bound, fun depth hdepth => ?_⟩
  · rw [heq]
    exact h.ok_or_error depth
  · rw [heq]
    exact hbound depth hdepth

/-- The depth that is left for an operand is one less. -/
theorem Settles.expression {power : Int} {c c' : Context} {t : Tree}
    (h : Settles (fun depth => (Part.expression power).run (expression depth)) c t c') :
    Settles (fun depth => expression depth power) c t c' := by
  constructor
  · intro depth
    cases depth with
    | zero => exact .inr ⟨c, rfl⟩
    | succ depth => exact h.ok_or_error depth
  · obtain ⟨bound, hbound⟩ := h.eventually
    refine ⟨bound + 1, fun depth hdepth => ?_⟩
    cases depth with
    | zero => omega
    | succ depth => exact hbound depth (by omega)

/-- A state is settled by one outcome. -/
theorem Settles.unique {α : Type} {parse : Nat → Parse α} {c c₁ c₂ : Context} {a₁ a₂ : α} (h₁ : Settles parse c a₁ c₁)
    (h₂ : Settles parse c a₂ c₂) : a₁ = a₂ ∧ c₁ = c₂ := by
  obtain ⟨m, hm⟩ := h₁.eventually
  obtain ⟨n, hn⟩ := h₂.eventually
  have h := (hm (max m n) (by omega)).symm.trans (hn (max m n) (by omega))
  injection h with ha hc
  exact ⟨ha, hc⟩

theorem expect_of_is {c : Context} {delimiter : Delimiter} (note : String) (h : c.lookahead.is delimiter) :
    expect delimiter note c = .ok (some c.lookahead) c.skip := by
  rw [expect_apply, if_pos h]

end Parse

open Parse

/-! ### Completeness -/

/-- A parse by what a token means, at any depth. -/
private theorem settles_null {token : Token} {meaning : NullDenotation} {c c' : Context} {t : Tree}
    (h : token.kind.null = meaning) (hrun : Settles (fun depth => meaning.run (expression depth) token) c t c') :
    Settles (fun depth => (Part.null token).run (expression depth)) c t c' := by
  refine hrun.congr fun depth => ?_
  show token.kind.null.run (expression depth) token c = _
  rw [h]

private theorem settles_left {token : Token} {meaning : LeftDenotation} {operand : Tree} {c c' : Context} {t : Tree}
    (h : token.kind.left = meaning)
    (hrun : Settles (fun depth => meaning.run (expression depth) token operand) c t c') :
    Settles (fun depth => (Part.left token operand).run (expression depth)) c t c' := by
  refine hrun.congr fun depth => ?_
  show token.kind.left.run (expression depth) token operand c = _
  rw [h]

private theorem settles_binary {token : Token} {label : String} {power : Int} {operand right : Tree} {c c' : Context}
    (h : token.kind.infixOperator? = some (label, power))
    (hright : Settles (fun depth => expression depth power) c right c') :
    Settles (fun depth => (Part.left token operand).run (expression depth)) c
      (.node [.atom label, operand, right]) c' := by
  have hnode := hright.map fun right => Tree.node [.atom label, operand, right]
  unfold Kind.infixOperator? at h
  split at h
  · rename_i hleft
    cases h
    exact settles_left hleft hnode
  · rename_i hleft
    cases h
    exact settles_left hleft hnode
  · rename_i hleft
    cases h
    exact settles_left hleft hnode
  · contradiction

private theorem settles_stop {power : Int} {t : Tree} {c : Context} (hpower : 0 ≤ power)
    (h : c.lookahead.kind.bindingPower ≤ power) :
    Settles (fun depth => loop (expression depth) power t) c t c := by
  refine (Settles.pure t c).congr fun depth => ?_
  rw [loop_apply (expression_steady depth) hpower, if_neg (by omega)]
  rfl

private theorem settles_extend {power : Int} {t u v : Tree} {c c' c'' : Context} (hpower : 0 ≤ power)
    (h : power < c.lookahead.kind.bindingPower)
    (hnext : Settles (fun depth => c.lookahead.parseLeft (expression depth) t) c.skip u c')
    (hmore : Settles (fun depth => loop (expression depth) power u) c' v c'') :
    Settles (fun depth => loop (expression depth) power t) c v c'' := by
  refine (hnext.bind hmore).congr fun depth => ?_
  rw [loop_apply (expression_steady depth) hpower, if_pos h]

/-- Whether the part is no extension by a negative power. -/
private def Part.Fits : Part → Prop
  | extension power _ => 0 ≤ power
  | _ => True

/-- What can be read is what the parse gives. -/
theorem Reads.settles {part : Part} {c c' : Context} {t : Tree} (h : Reads part c t c') (hpart : part.Fits) :
    Settles (fun depth => part.run (Parse.expression depth)) c t c' := by
  induction h with
  | expression nonneg first more ihfirst ihmore =>
    exact (Settles.advance _).bind ((ihfirst trivial).bind (ihmore nonneg))
  | stop weak => exact settles_stop hpart weak
  | extend tight next more ihnext ihmore => exact settles_extend hpart tight (ihnext trivial) (ihmore hpart)
  | value means => exact settles_null means (.pure _ _)
  | operand means inner ih => exact settles_null means (ih trivial).expression
  | negation means inner ih => exact settles_null means ((ih trivial).expression.map _)
  | labelled means inner ih => exact settles_null means ((ih trivial).expression.map _)
  | group means inner closed ih =>
    exact settles_null means
      ((ih trivial).expression.bind ((Settles.of_run (expect_of_is _ closed)).bind (.pure _ _)))
  | binary means inner ih => exact settles_binary means (ih trivial).expression
  | @trailing token close c t means ends =>
    refine settles_left means ((Settles.lookahead _).bind ?_)
    refine (Settles.pure _ _).congr fun depth => ?_
    rw [if_pos ends]
  | @statement token close c c' t u means goesOn inner ih =>
    refine settles_left means ((Settles.lookahead _).bind ?_)
    refine ((ih trivial).expression.map fun u => t.followedBy u.succeeded?).congr fun depth => ?_
    rw [if_neg goesOn]
  | call means inner closed ih =>
    exact settles_left means
      ((ih trivial).expression.bind ((Settles.of_run (expect_of_is _ closed)).bind (.pure _ _)))

/-- There is at most one reading of an expression. -/
theorem Reads.unique {power : Int} {c c₁ c₂ : Context} {t₁ t₂ : Tree} (h₁ : Reads (.expression power) c t₁ c₁)
    (h₂ : Reads (.expression power) c t₂ c₂) : t₁ = t₂ ∧ c₁ = c₂ :=
  (h₁.settles trivial).unique (h₂.settles trivial)

/-! ### Soundness -/

/-- What a token may mean at the start of an expression for a parse to be a reading. -/
def NullDenotation.Regular : NullDenotation → Prop
  | unexpected | value | group .. => True
  | operand power | negation power | labelled _ power => 0 ≤ power
  | _ => False

/-- What a token may mean after an expression for a parse to be a reading, given its binding power. -/
def LeftDenotation.Regular (bindingPower : Int) : LeftDenotation → Prop
  | unexpected | call .. => True
  | binary _ power => 0 ≤ power
  | operation | assignment | sequence _ => 0 ≤ bindingPower
  | _ => False

/-- Tokens of the kind have regular meanings in both places. -/
structure Kind.Regular (kind : Kind) : Prop where
  null : kind.null.Regular
  left : kind.left.Regular kind.bindingPower

/-- All tokens that are left have regular meanings. -/
def Context.Regular (c : Context) : Prop := ∀ token ∈ c.rest, token.kind.Regular

theorem Context.Regular.lookahead {c : Context} (h : c.Regular) : c.lookahead.kind.Regular :=
  Context.lookahead_of_forall h ⟨trivial, trivial⟩

theorem Context.Regular.of_leads {c c' : Context} (h : c.Regular) (hc : c.Leads c') : c'.Regular :=
  fun token hmem => h token (hc.mem_rest hmem)

namespace Parse

/-- A delimiter that is expected and does not come is reported. -/
theorem expect_eq_ok {c c' : Context} {delimiter : Delimiter} {note : String} {token? : Option Token}
    (h : expect delimiter note c = .ok token? c') (hclean : c'.diagnostics = c.diagnostics) :
    c.lookahead.is delimiter ∧ c' = c.skip := by
  rw [expect_apply] at h
  by_cases his : c.lookahead.is delimiter
  · rw [if_pos his] at h
    cases h
    exact ⟨his, rfl⟩
  · rw [if_neg his] at h
    cases h
    exact absurd hclean (Context.diagnostics_add_ne (.refl _))

theorem unexpected_ne_ok {c c' : Context} {token : Token} {place : String} {t : Tree}
    (h : unexpected token place c = .ok t c') : c'.diagnostics ≠ c.diagnostics := by
  cases h
  exact Context.diagnostics_add_ne (.refl _)

/-- A way to parse expressions that reports all there is to report. -/
structure Honest (parse : Int → Parse Tree) : Prop where
  steady : ∀ power, Steady (parse power)
  reads : ∀ {power c t c'}, 0 ≤ power → c.Regular → parse power c = .ok t c' → c'.diagnostics = c.diagnostics →
    Reads (.expression power) c t c'

section

variable {parse : Int → Parse Tree} (hparse : Honest parse)
include hparse

/-- An expression in front of a delimiter, with no report on either. -/
private theorem Honest.reads_closed {power : Int} {c c₁ c₂ : Context} {t : Tree} {close : Delimiter} {note : String}
    {token? : Option Token} (hpower : 0 ≤ power) (hc : c.Regular) (hinner : parse power c = .ok t c₁)
    (hclose : expect close note c₁ = .ok token? c₂) (hclean : c₂.diagnostics = c.diagnostics) :
    Reads (.expression power) c t c₁ ∧ c₁.lookahead.is close ∧ c₂ = c₁.skip := by
  have hfirst := (hparse.steady power).leads hinner
  have hmid := hfirst.diagnostics_eq_left ((expect_steady close note).leads hclose) hclean
  exact ⟨hparse.reads hpower hc hinner hmid, expect_eq_ok hclose (hclean.trans hmid.symm)⟩

theorem Honest.reads_null {token : Token} {c c' : Context} {t : Tree} (htoken : token.kind.null.Regular)
    (hc : c.Regular) (hrun : token.parseNull parse c = .ok t c') (hclean : c'.diagnostics = c.diagnostics) :
    Reads (.null token) c t c' := by
  unfold Token.parseNull at hrun
  cases hnull : token.kind.null with
  | unexpected =>
    rw [hnull] at hrun
    exact absurd hclean (unexpected_ne_ok hrun)
  | value =>
    rw [hnull] at hrun
    cases hrun
    exact .value hnull
  | operand power =>
    rw [hnull] at hrun htoken
    exact .operand hnull (hparse.reads htoken hc hrun hclean)
  | negation power =>
    rw [hnull] at hrun htoken
    obtain ⟨u, c₁, hinner, hpure⟩ := bind_eq_ok hrun
    cases hpure
    exact .negation hnull (hparse.reads htoken hc hinner hclean)
  | labelled label power =>
    rw [hnull] at hrun htoken
    obtain ⟨u, c₁, hinner, hpure⟩ := bind_eq_ok hrun
    cases hpure
    exact .labelled hnull (hparse.reads htoken hc hinner hclean)
  | group close note =>
    rw [hnull] at hrun
    obtain ⟨u, c₁, hinner, hrest⟩ := bind_eq_ok hrun
    obtain ⟨token?, c₂, hclose, hpure⟩ := bind_eq_ok hrest
    cases hpure
    obtain ⟨hreads, his, rfl⟩ := hparse.reads_closed (by omega) hc hinner hclose hclean
    exact .group hnull hreads his
  | absent | fault | list =>
    rw [hnull] at htoken
    exact htoken.elim

theorem Honest.reads_left {token : Token} {operand : Tree} {c c' : Context} {t : Tree}
    (htoken : token.kind.left.Regular token.kind.bindingPower) (hc : c.Regular)
    (hrun : token.parseLeft parse operand c = .ok t c') (hclean : c'.diagnostics = c.diagnostics) :
    Reads (.left token operand) c t c' := by
  unfold Token.parseLeft at hrun
  cases hleft : token.kind.left with
  | unexpected =>
    rw [hleft] at hrun
    exact absurd hclean (unexpected_ne_ok hrun)
  | binary label power =>
    rw [hleft] at hrun htoken
    obtain ⟨u, c₁, hinner, hpure⟩ := bind_eq_ok hrun
    cases hpure
    exact .binary (by rw [Kind.infixOperator?, hleft]) (hparse.reads htoken hc hinner hclean)
  | operation =>
    rw [hleft] at hrun htoken
    obtain ⟨u, c₁, hinner, hpure⟩ := bind_eq_ok hrun
    cases hpure
    exact .binary (by rw [Kind.infixOperator?, hleft]) (hparse.reads htoken hc hinner hclean)
  | assignment =>
    rw [hleft] at hrun htoken
    obtain ⟨u, c₁, hinner, hpure⟩ := bind_eq_ok hrun
    cases hpure
    exact .binary (by rw [Kind.infixOperator?, hleft]) (hparse.reads htoken hc hinner hclean)
  | sequence close =>
    rw [hleft] at hrun htoken
    change (if c.lookahead.isEnd || c.lookahead.is close then _ else _ : Parse Tree) c = _ at hrun
    by_cases hends : c.lookahead.isEnd || c.lookahead.is close
    · rw [if_pos hends] at hrun
      cases hrun
      exact .trailing hleft hends
    · rw [if_neg hends] at hrun
      obtain ⟨u, c₁, hinner, hpure⟩ := bind_eq_ok hrun
      cases hpure
      exact .statement hleft hends (hparse.reads htoken hc hinner hclean)
  | call close note =>
    rw [hleft] at hrun
    obtain ⟨u, c₁, hinner, hrest⟩ := bind_eq_ok hrun
    obtain ⟨token?, c₂, hclose, hpure⟩ := bind_eq_ok hrest
    cases hpure
    obtain ⟨hreads, his, rfl⟩ := hparse.reads_closed (by omega) hc hinner hclose hclean
    exact .call hleft hreads his
  | postfixed | ternary | index =>
    rw [hleft] at htoken
    exact htoken.elim

/-- The loop is read by induction on the tokens that are left. -/
theorem Honest.reads_loop {power : Int} (hpower : 0 ≤ power) {operand : Tree} {c c' : Context} {t : Tree}
    (hc : c.Regular) (hrun : loop parse power operand c = .ok t c') (hclean : c'.diagnostics = c.diagnostics) :
    Reads (.extension power operand) c t c' := by
  induction hlen : c.rest.length using Nat.strongRecOn generalizing c operand with
  | ind length ih =>
    subst hlen
    rw [loop_apply hparse.steady hpower] at hrun
    split at hrun
    · rename_i htight
      obtain ⟨u, c₁, hnext, hmore⟩ := bind_eq_ok hrun
      have hfirst := (parseLeft_steady hparse.steady _ _).leads hnext
      have hmid := hfirst.diagnostics_eq_left ((loop_steady hparse.steady power u).leads hmore) hclean
      have hskip := hc.of_leads c.leads_skip
      -- the token that is taken is left no more
      have hlt : c₁.rest.length < c.rest.length := by
        have h1 := hfirst.length_rest_le
        have h2 := rest_length_pos hpower htight
        simp only [Context.skip_rest, List.length_tail] at h1
        omega
      exact .extend htight (hparse.reads_left hc.lookahead.left hskip hnext hmid)
        (ih _ hlt (hskip.of_leads hfirst) hmore (hclean.trans hmid.symm) rfl)
    · cases hrun
      exact .stop (by omega)

end

theorem expression_honest (depth : Nat) : Honest (expression depth) := by
  refine ⟨expression_steady depth, ?_⟩
  induction depth with
  | zero =>
    intro power c t c' _ _ hrun
    cases hrun
  | succ depth ih =>
    intro power c t c' hpower hc hrun hclean
    have hparse : Honest (expression depth) := ⟨expression_steady depth, ih⟩
    rw [expression_succ_apply] at hrun
    obtain ⟨u, c₁, hfirst, hmore⟩ := bind_eq_ok hrun
    have hlead := (parseNull_steady hparse.steady _).leads hfirst
    -- what is not reported in the end has not been reported before the loop
    have hmid := hlead.diagnostics_eq_left ((loop_steady hparse.steady power u).leads hmore) hclean
    have hskip := hc.of_leads c.leads_skip
    exact .expression hpower (hparse.reads_null hc.lookahead.null hskip hfirst hmid)
      (hparse.reads_loop hpower (hskip.of_leads hlead) hmore (hclean.trans hmid.symm))

/-- A parse of tokens with regular meanings that reports nothing is a reading. -/
theorem reads_of_expression {depth : Nat} {power : Int} {c c' : Context} {t : Tree} (hpower : 0 ≤ power)
    (hc : c.Regular) (hrun : expression depth power c = .ok t c') (hclean : c'.diagnostics = c.diagnostics) :
    Reads (.expression power) c t c' :=
  (expression_honest depth).reads hpower hc hrun hclean

end Parse

end Precedence
