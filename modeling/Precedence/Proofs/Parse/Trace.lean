import Precedence.Proofs.Parse.Consumption
import Precedence.Proofs.Parse.Runs

/-!
# Traces of parses

A trace lists what happens in a parse, in order: expressions are entered and left, and tokens are taken.  Each run has a
trace (`Runs.exists_traces`).  A moment of the parse is a beginning of the trace; the expressions that are active at
that moment are those that have been entered and not left.

A parse to a given depth ends as its trace does exactly if at no moment more expressions than that are active, and else
it fails since the nesting is too deep (`Traces.decides`).  The events of an expression, of a denotation and of a loop
are balanced, which carries the induction: the moments within one part of a trace do not depend on the parts before it.
-/

namespace Precedence

/-- What happens in a parse. -/
inductive Event where
  /-- An expression is entered. -/
  | enter
  /-- The expression that was entered last is left. -/
  | leave
  /-- A token is taken at the start of an expression. -/
  | first (token : Token)
  /-- A token is taken after an expression. -/
  | further (token : Token)
  /-- A delimiter is taken. -/
  | delimiter (token : Token)
  deriving DecidableEq

namespace Event

/-- The token that is taken. -/
def token? : Event → Option Token
  | first token | further token | delimiter token => some token
  | enter | leave => none

end Event

/-- The number of expressions that are active after the events. -/
def active (events : List Event) : Nat := events.count .enter - events.count .leave

/-- The tokens that are taken in the events. -/
def taken (events : List Event) : List Token := events.filterMap Event.token?

section

variable (token : Token) (events more : List Event)

@[simp] theorem taken_nil : taken [] = [] := rfl

@[simp] theorem taken_enter : taken (.enter :: events) = taken events := rfl

@[simp] theorem taken_leave : taken (.leave :: events) = taken events := rfl

@[simp] theorem taken_first : taken (.first token :: events) = token :: taken events := rfl

@[simp] theorem taken_further : taken (.further token :: events) = token :: taken events := rfl

@[simp] theorem taken_delimiter : taken (.delimiter token :: events) = token :: taken events := rfl

@[simp] theorem taken_append : taken (events ++ more) = taken events ++ taken more := List.filterMap_append

end

/-- From the first state on the stage ends with the tree, in the second state, and these events happen. -/
inductive Traces : Stage → Context → List Event → Tree → Context → Prop
  | expression {power : Int} {c c' c'' : Context} {inner more : List Event} {t u : Tree}
      (first : Traces (.procedure c.lookahead.nullProcedure) c.skip inner t c')
      (further : Traces (.extension power t) c' more u c'') :
      Traces (.expression power) c (.enter :: .first c.lookahead :: (inner ++ more) ++ [.leave]) u c''
  | stop {power : Int} {c : Context} {t : Tree} (weak : c.lookahead.kind.bindingPower ≤ power) :
      Traces (.extension power t) c [] t c
  | extend {power : Int} {c c' c'' : Context} {inner more : List Event} {t u v : Tree}
      (tight : power < c.lookahead.kind.bindingPower)
      (next : Traces (.procedure (c.lookahead.leftProcedure t)) c.skip inner u c')
      (further : Traces (.extension power u) c' more v c'') :
      Traces (.extension power t) c (.further c.lookahead :: (inner ++ more)) v c''
  | give {c : Context} {t : Tree} : Traces (.procedure (.give t)) c [] t c
  | report {code message : String} {notes : List String} {next : Procedure} {c c' : Context} {events : List Event}
      {t : Tree} (further : Traces (.procedure next) (c.add ⟨.error, code, message, notes⟩) events t c') :
      Traces (.procedure (.report code message notes next)) c events t c'
  | operand {power : Int} {next : Tree → Procedure} {c c' c'' : Context} {inner more : List Event} {t u : Tree}
      (operand : Traces (.expression power) c inner t c') (further : Traces (.procedure (next t)) c' more u c'') :
      Traces (.procedure (.operand power next)) c (inner ++ more) u c''
  | look {next : Token → Procedure} {c c' : Context} {events : List Event} {t : Tree}
      (further : Traces (.procedure (next c.lookahead)) c events t c') :
      Traces (.procedure (.look next)) c events t c'
  | skip {next : Procedure} {c c' : Context} {events : List Event} {t : Tree}
      (further : Traces (.procedure next) c.skip events t c') :
      Traces (.procedure (.skip next)) c (.delimiter c.lookahead :: events) t c'
  | items {separator close : Delimiter} {members : List Tree} {next : List Tree → Procedure} {c c' : Context}
      {events : List Event} {t : Tree}
      (round : Traces (.procedure (.firstItem separator close members next)) c events t c') :
      Traces (.procedure (.items separator close members next)) c events t c'

section

variable {stage : Stage} {c c' : Context} {events : List Event} {t : Tree}

/-- Every run has a trace. -/
theorem Runs.exists_traces (h : Runs stage c t c') : ∃ events, Traces stage c events t c' := by
  induction h with
  | expression _ _ ihfirst ihmore =>
    obtain ⟨inner, hfirst⟩ := ihfirst
    obtain ⟨more, hmore⟩ := ihmore
    exact ⟨_, .expression hfirst hmore⟩
  | stop weak => exact ⟨_, .stop weak⟩
  | extend tight _ _ ihnext ihmore =>
    obtain ⟨inner, hnext⟩ := ihnext
    obtain ⟨more, hmore⟩ := ihmore
    exact ⟨_, .extend tight hnext hmore⟩
  | give => exact ⟨_, .give⟩
  | report _ ih =>
    obtain ⟨events, hmore⟩ := ih
    exact ⟨events, .report hmore⟩
  | operand _ _ ihinner ihmore =>
    obtain ⟨inner, hinner⟩ := ihinner
    obtain ⟨more, hmore⟩ := ihmore
    exact ⟨_, .operand hinner hmore⟩
  | look _ ih =>
    obtain ⟨events, hmore⟩ := ih
    exact ⟨events, .look hmore⟩
  | skip _ ih =>
    obtain ⟨events, hmore⟩ := ih
    exact ⟨_, .skip hmore⟩
  | items _ ih =>
    obtain ⟨events, hround⟩ := ih
    exact ⟨events, .items hround⟩

/-- The state that is reached is reached by taking the tokens of the trace. -/
theorem Traces.takes (h : Traces stage c events t c') : c.Takes (taken events) c' := by
  induction h with
  | expression _ _ ihfirst ihmore =>
    have htaken := Context.Takes.advance rfl (ihfirst.trans ihmore)
    simpa using htaken
  | stop | give => exact .refl _
  | extend _ _ _ ihnext ihmore =>
    have htaken := Context.Takes.advance rfl (ihnext.trans ihmore)
    simpa using htaken
  | report _ ih => exact .report rfl ih
  | operand _ _ ihinner ihmore => simpa using ihinner.trans ihmore
  | look _ ih | items _ ih => exact ih
  | skip _ ih => exact .advance rfl ih

theorem Traces.leads (h : Traces stage c events t c') : c.Leads c' := h.takes.leads

/-- As many expressions are entered as are left. -/
def Balanced (events : List Event) : Prop := events.count .enter = events.count .leave

theorem Balanced.append {events more : List Event} (h : Balanced events) (hmore : Balanced more) :
    Balanced (events ++ more) := by
  unfold Balanced at *
  rw [List.count_append, List.count_append, h, hmore]

theorem Balanced.cons {event : Event} {events : List Event} (h : Balanced events) (henter : event ≠ .enter)
    (hleave : event ≠ .leave) : Balanced (event :: events) := by
  unfold Balanced at *
  rw [List.count_cons_of_ne henter, List.count_cons_of_ne hleave, h]

theorem Balanced.call {events : List Event} (h : Balanced events) : Balanced (.enter :: events ++ [.leave]) := by
  unfold Balanced at *
  simp [h]

theorem Traces.balanced (h : Traces stage c events t c') : Balanced events := by
  induction h with
  | expression _ _ ihfirst ihmore => exact ((ihfirst.append ihmore).cons (by simp) (by simp)).call
  | stop | give => rfl
  | extend _ _ _ ihnext ihmore => exact (ihnext.append ihmore).cons (by simp) (by simp)
  | report _ ih | look _ ih | items _ ih => exact ih
  | operand _ _ ihinner ihmore => exact ihinner.append ihmore
  | skip _ ih => exact ih.cons (by simp) (by simp)

end

/-! ### Moments -/

theorem prefix_append_cases {moment first more : List Event} (h : moment <+: first ++ more) :
    moment <+: first ∨ ∃ later, later <+: more ∧ moment = first ++ later := by
  obtain ⟨rest, heq⟩ := h
  rcases List.append_eq_append_iff.mp heq with ⟨left, hfirst, -⟩ | ⟨later, hmoment, hmore⟩
  · exact .inl ⟨left, hfirst.symm⟩
  · exact .inr ⟨later, ⟨rest, hmore.symm⟩, hmoment⟩

/-- What the events gain, each of them on its own. -/
def gained (gain : Event → Nat) : List Event → Nat
  | [] => 0
  | event :: events => gain event + gained gain events

@[simp] theorem gained_nil (gain : Event → Nat) : gained gain [] = 0 := rfl

@[simp] theorem gained_cons (gain : Event → Nat) (event : Event) (events : List Event) :
    gained gain (event :: events) = gain event + gained gain events := rfl

@[simp] theorem gained_append (gain : Event → Nat) (first more : List Event) :
    gained gain (first ++ more) = gained gain first + gained gain more := by
  induction first with
  | nil => simp
  | cons event first ih => rw [List.cons_append, gained_cons, gained_cons, ih, Nat.add_assoc]

/-- At no moment of the events more expressions are active than the limit allows, which is raised by what the events
have gained by then. -/
def Within (gain : Event → Nat) (limit : Nat) (events : List Event) : Prop :=
  ∀ moment, moment <+: events → active moment ≤ limit + gained gain moment

section

variable {gain : Event → Nat} {limit : Nat} {event : Event} {events more : List Event}

theorem active_le_iff : active events ≤ limit ↔ events.count .enter ≤ limit + events.count .leave := by
  unfold active
  omega

theorem within_nil (gain : Event → Nat) (limit : Nat) : Within gain limit [] := by
  intro moment hmoment
  rw [List.prefix_nil.mp hmoment]
  simp [active]

theorem within_append (h : Balanced events) :
    Within gain limit (events ++ more) ↔ Within gain limit events ∧ Within gain (limit + gained gain events) more := by
  have hactive : ∀ later, active (events ++ later) = active later := by
    intro later
    unfold Balanced at h
    simp only [active, List.count_append, h]
    omega
  constructor
  · intro hall
    refine ⟨fun moment hmoment => hall moment (List.prefix_append_of_prefix hmoment), fun later hlater => ?_⟩
    have hmoment := hall (events ++ later) ((List.prefix_append_right_inj events).mpr hlater)
    rw [hactive, gained_append] at hmoment
    omega
  · rintro ⟨hfirst, hmore⟩ moment hmoment
    rcases prefix_append_cases hmoment with hmoment | ⟨later, hlater, rfl⟩
    · exact hfirst moment hmoment
    · have := hmore later hlater
      rw [hactive, gained_append]
      omega

/-- To take a token makes no more expressions active. -/
theorem within_cons (henter : event ≠ .enter) (hleave : event ≠ .leave) :
    Within gain limit (event :: events) ↔ Within gain (limit + gain event) events := by
  have hsingle : Within gain limit [event] := by
    intro moment hmoment
    rcases List.prefix_cons_iff.mp hmoment with rfl | ⟨later, rfl, hlater⟩
    · simp [active]
    · rw [List.prefix_nil.mp hlater]
      simp [active, henter, hleave]
  have hbalanced : Balanced [event] := by simp [Balanced, henter, hleave]
  rw [← List.singleton_append, within_append hbalanced, gained_cons, gained_nil, Nat.add_zero]
  exact and_iff_right hsingle

/-- Inside of an expression the limit is one less. -/
theorem within_call (h : Balanced events) (henter : gain .enter = 0) :
    Within gain (limit + 1) (.enter :: events ++ [.leave]) ↔ Within gain limit events := by
  have hentered : ∀ moment, active (.enter :: moment) ≤ limit + 1 + gained gain (.enter :: moment) ↔
      active moment ≤ limit + gained gain moment := by
    intro moment
    rw [active_le_iff, active_le_iff, gained_cons, henter, List.count_cons_self, List.count_cons_of_ne (by decide)]
    omega
  constructor
  · intro hall moment hmoment
    exact (hentered moment).mp (hall _ (by simpa using List.prefix_append_of_prefix hmoment))
  · intro hinner moment hmoment
    rcases List.prefix_cons_iff.mp hmoment with rfl | ⟨later, rfl, hlater⟩
    · simp [active]
    · rcases List.prefix_concat_iff.mp hlater with rfl | hlater
      · -- in the end the expression is left
        unfold Balanced at h
        simp [active_le_iff, h]
      · exact (hentered later).mpr (hinner later hlater)

end

/-! ### Parses to a depth -/

/-- At no moment of the events more expressions are active than the depth allows. -/
def Shallow (depth : Nat) (events : List Event) : Prop := ∀ moment, moment <+: events → active moment ≤ depth

section

variable {depth : Nat} {event : Event} {events more : List Event}

theorem gained_zero (events : List Event) : gained (fun _ => 0) events = 0 := by
  induction events with
  | nil => rfl
  | cons event events ih => rw [gained_cons, ih]

theorem shallow_iff_within : Shallow depth events ↔ Within (fun _ => 0) depth events := by
  simp only [Shallow, Within, gained_zero, Nat.add_zero]

theorem shallow_nil (depth : Nat) : Shallow depth [] := shallow_iff_within.mpr (within_nil _ depth)

theorem shallow_append (h : Balanced events) :
    Shallow depth (events ++ more) ↔ Shallow depth events ∧ Shallow depth more := by
  simp only [shallow_iff_within, within_append h, gained_zero, Nat.add_zero]

theorem shallow_cons (henter : event ≠ .enter) (hleave : event ≠ .leave) :
    Shallow depth (event :: events) ↔ Shallow depth events := by
  simp only [shallow_iff_within, within_cons henter hleave, Nat.add_zero]

theorem shallow_call (h : Balanced events) :
    Shallow (depth + 1) (.enter :: events ++ [.leave]) ↔ Shallow depth events := by
  rw [shallow_iff_within, shallow_iff_within, within_call h rfl]

/-- No more expressions are active than events have happened. -/
theorem shallow_of_length_le (h : events.length ≤ depth) : Shallow depth events := by
  intro moment hmoment
  have hcount : moment.count .enter ≤ moment.length := List.count_le_length
  have hlength := hmoment.length_le
  unfold active
  omega

theorem not_shallow_zero (events : List Event) : ¬ Shallow 0 (.enter :: events) := by
  intro h
  have := h [.enter] (by simp)
  simp [active] at this

end

namespace Parse

/-- The step ends in the tree and the state if there is room for it, and it fails if there is not. -/
structure Decides {α : Type} (room : Prop) (step : Parse α) (c : Context) (a : α) (c' : Context) : Prop where
  ok : room → step c = .ok a c'
  error : ¬ room → ∃ c'', step c = .error ⟨⟩ c''

variable {α β : Type} {room room' : Prop} {step : Parse α} {next : α → Parse β} {c c' c'' : Context} {a : α} {b : β}

theorem Decides.of_run (h : step c = .ok a c') : Decides True step c a c' :=
  ⟨fun _ => h, fun hnot => (hnot trivial).elim⟩

theorem Decides.bind (h : Decides room step c a c') (hnext : Decides room' (next a) c' b c'') :
    Decides (room ∧ room') (step >>= next) c b c'' := by
  constructor
  · rintro ⟨hroom, hroom'⟩
    rw [bind_apply, h.ok hroom]
    exact hnext.ok hroom'
  · intro hnot
    rw [bind_apply]
    by_cases hroom : room
    · rw [h.ok hroom]
      exact hnext.error fun hroom' => hnot ⟨hroom, hroom'⟩
    · obtain ⟨failed, herror⟩ := h.error hroom
      exact ⟨failed, by rw [herror]⟩

/-- A step that has ended has had the room for it. -/
theorem Decides.room_of_ok (h : Decides room step c a c') {other : α} (hrun : step c = .ok other c'') : room := by
  refine Classical.byContradiction fun hnot => ?_
  obtain ⟨failed, herror⟩ := h.error hnot
  cases hrun.symm.trans herror

/-- Another step that does the same, with as much room. -/
theorem Decides.congr {other : Parse α} {c₀ : Context} (h : Decides room step c a c') (hroom : room' ↔ room)
    (hstep : other c₀ = step c) : Decides room' other c₀ a c' :=
  ⟨fun h' => hstep.trans (h.ok (hroom.mp h')), fun hnot => hstep ▸ h.error fun h' => hnot (hroom.mpr h')⟩

end Parse

open Parse

/-- Parse a stage, with expressions to the given depth. -/
def Stage.parse (depth : Nat) : Stage → Parse Tree
  | expression power => Parse.expression depth power
  | extension power operand => loop (Parse.expression depth) power operand
  | procedure steps => steps.run (Parse.expression depth)

/-- A parse to some depth ends as its trace does if at no moment more expressions than that are active, and else it
fails since the nesting is too deep. -/
theorem Traces.decides {stage : Stage} {c c' : Context} {events : List Event} {t : Tree}
    (h : Traces stage c events t c') (hc : c.Nonneg) (hstage : stage.Nonneg) (depth : Nat) :
    Decides (Shallow depth events) (stage.parse depth) c t c' := by
  induction h generalizing depth with
  | @expression power c c' c'' inner more t u first further ihfirst ihmore =>
    cases depth with
    | zero => exact ⟨fun hroom => absurd hroom (not_shallow_zero _), fun _ => ⟨c, rfl⟩⟩
    | succ depth =>
      have hskip := hc.of_leads c.leads_skip
      have hnull : Decides (Shallow depth inner) (c.lookahead.parseNull (Parse.expression depth)) c.skip t c' := by
        rw [Token.parseNull_eq]
        exact ihfirst hskip hc.lookahead.nullProcedure depth
      have hmore : Decides (Shallow depth more) (loop (Parse.expression depth) power t) c' u c'' :=
        ihmore (hskip.of_leads first.leads) hstage depth
      have hbalanced : Balanced (.first c.lookahead :: (inner ++ more)) :=
        (first.balanced.append further.balanced).cons (by simp) (by simp)
      refine (hnull.bind hmore).congr ?_ (expression_succ_apply _ _ _)
      rw [shallow_call hbalanced, shallow_cons (by simp) (by simp), shallow_append first.balanced]
  | stop weak =>
    refine (Decides.of_run rfl).congr (iff_of_true (shallow_nil depth) trivial) ?_
    rw [Stage.parse, loop_apply (expression_steady depth) hstage, if_neg (by omega)]
  | @extend power c c' c'' inner more t u v tight next further ihnext ihmore =>
    have hskip := hc.of_leads c.leads_skip
    have hpositive : 0 ≤ c.lookahead.kind.bindingPower := Int.le_of_lt (Int.lt_of_le_of_lt hstage tight)
    have hleft : Decides (Shallow depth inner) (c.lookahead.parseLeft (Parse.expression depth) t) c.skip u c' := by
      rw [Token.parseLeft_eq]
      exact ihnext hskip (hc.lookahead.leftProcedure hpositive t) depth
    have hmore : Decides (Shallow depth more) (loop (Parse.expression depth) power u) c' v c'' :=
      ihmore (hskip.of_leads next.leads) hstage depth
    refine (hleft.bind hmore).congr ?_ ?_
    · rw [shallow_cons (by simp) (by simp), shallow_append next.balanced]
    · rw [Stage.parse, loop_apply (expression_steady depth) hstage, if_pos tight]
  | give => exact (Decides.of_run rfl).congr (iff_of_true (shallow_nil depth) trivial) rfl
  | report further ih => exact (ih (hc.of_leads (Context.leads_add _ rfl)) hstage depth).congr Iff.rfl rfl
  | operand operand further ihinner ihmore =>
    refine ((ihinner hc hstage.1 depth).bind (ihmore (hc.of_leads operand.leads) (hstage.2 _) depth)).congr ?_ rfl
    exact shallow_append operand.balanced
  | look further ih => exact (ih hc (hstage _) depth).congr Iff.rfl rfl
  | skip further ih =>
    refine (ih (hc.of_leads (Context.leads_skip _)) hstage depth).congr ?_ rfl
    exact shallow_cons (by simp) (by simp)
  | items round ih =>
    exact (ih hc (Procedure.Nonneg.firstItem hstage) depth).congr Iff.rfl
      (run_items (expression_consuming depth) _ _ _)

end Precedence
