import Precedence.Proofs.Parse.Reading
import Precedence.Proofs.Parse.Trace

/-!
# Parses end

* Every state has a run (`exists_runs`), by induction on the tokens that are left: an operand is parsed behind a token
  that has been consumed, and behind the last token no operand is asked for.
* `expression` ends as the run does, or it fails since the nesting is too deep (`Runs.settles`).

Both rest on powers that are at least zero.  With a negative power the loop over operators would go on with the end of
the input forever.
-/

namespace Precedence

/-! ### Every state has a run -/

/-- Expressions have runs from all states with fewer tokens left than the given number. -/
private def Ending (bound : Nat) : Prop :=
  ∀ ⦃c : Context⦄, c.Nonneg → c.rest.length < bound → ∀ ⦃power : Int⦄, 0 ≤ power →
    ∃ t c', Runs (.expression power) c t c'

section

variable {bound : Nat} (hbound : Ending bound)
include hbound

/-- The loop over the items of a list ends, by induction on the tokens that are left. -/
private theorem Ending.items {separator close : Delimiter} {next : List Tree → Procedure}
    (hnext : ∀ members ⦃c : Context⦄, c.Nonneg → c.rest.length < bound →
      ∃ t c', Runs (.procedure (next members)) c t c')
    {c : Context} (hc : c.Nonneg) (hlength : c.rest.length < bound) (members : List Tree) :
    ∃ t c', Runs (.procedure (.items separator close members next)) c t c' := by
  induction hrest : c.rest.length using Nat.strongRecOn generalizing c members with
  | ind length ih =>
    subst hrest
    by_cases hends : Procedure.ends close c.lookahead
    · obtain ⟨t, c', hrun⟩ := hnext members hc hlength
      exact ⟨t, c', .items (.look (by rwa [if_pos hends]))⟩
    · obtain ⟨t, c', hitem⟩ := hbound hc hlength (Int.le_refl 0)
      have hlen := hitem.leads_skip.length_rest_le
      have hpos := Parse.rest_length_pos_of_not_ends hends
      simp only [Context.skip_rest, List.length_tail] at hlen
      have hc' := hc.of_leads hitem.leads
      -- the next round begins with a token less, since the item has consumed one
      have hround : ∃ u c'', Runs (.procedure (if c'.lookahead.is separator then
          .skip (.items separator close (members ++ [t]) next) else next (members ++ [t]))) c' u c'' := by
        split
        · obtain ⟨u, c'', hmore⟩ := ih c'.skip.rest.length (by simp; omega) (hc'.of_leads c'.leads_skip)
            (by simp; omega) (members ++ [t]) rfl
          exact ⟨u, c'', .skip hmore⟩
        · exact hnext (members ++ [t]) hc' (by omega)
      obtain ⟨u, c'', hmore⟩ := hround
      exact ⟨u, c'', .items (.look (by rw [if_neg hends]; exact .operand hitem (.look hmore)))⟩

/-- A procedure ends if the expressions inside of it do. -/
private theorem Ending.procedure {steps : Procedure} (hsteps : steps.Nonneg) {c : Context} (hc : c.Nonneg)
    (hlength : c.rest.length < bound) : ∃ t c', Runs (.procedure steps) c t c' := by
  induction steps generalizing c with
  | give t => exact ⟨t, c, .give⟩
  | report code message notes next ih =>
    obtain ⟨t, c', hrun⟩ := ih hsteps (hc.of_leads (c.leads_add (d := ⟨.error, code, message, notes⟩) rfl)) hlength
    exact ⟨t, c', .report hrun⟩
  | operand power next ih =>
    obtain ⟨t, c', hinner⟩ := hbound hc hlength hsteps.1
    obtain ⟨u, c'', hmore⟩ := ih t (hsteps.2 t) (hc.of_leads hinner.leads)
      (Nat.lt_of_le_of_lt hinner.leads.length_rest_le hlength)
    exact ⟨u, c'', .operand hinner hmore⟩
  | look next ih =>
    obtain ⟨t, c', hrun⟩ := ih c.lookahead (hsteps c.lookahead) hc hlength
    exact ⟨t, c', .look hrun⟩
  | skip next ih =>
    obtain ⟨t, c', hrun⟩ := ih hsteps (hc.of_leads c.leads_skip)
      (Nat.lt_of_le_of_lt c.leads_skip.length_rest_le hlength)
    exact ⟨t, c', .skip hrun⟩
  | items separator close members next ih =>
    exact hbound.items (fun members c hc hlength => ih members (hsteps members) hc hlength) hc hlength members

/-- The loop over operators ends, by induction on the tokens that are left. -/
private theorem Ending.extension {power : Int} (hpower : 0 ≤ power) {c : Context} (hc : c.Nonneg)
    (hlength : c.rest.length ≤ bound) (operand : Tree) : ∃ t c', Runs (.extension power operand) c t c' := by
  induction hrest : c.rest.length using Nat.strongRecOn generalizing c operand with
  | ind length ih =>
    subst hrest
    by_cases htight : power < c.lookahead.kind.bindingPower
    · have hpos := Parse.rest_length_pos hpower htight
      have hskip : c.skip.rest.length < c.rest.length := by simp; omega
      obtain ⟨t, c', hnext⟩ := hbound.procedure (hc.lookahead.leftProcedure (by omega) operand)
        (hc.of_leads c.leads_skip) (by omega)
      have hlen := hnext.leads.length_rest_le
      obtain ⟨u, c'', hmore⟩ := ih c'.rest.length (by omega)
        ((hc.of_leads c.leads_skip).of_leads hnext.leads) (by omega) t rfl
      exact ⟨u, c'', .extend htight hnext hmore⟩
    · exact ⟨operand, c, .stop (by omega)⟩

end

private theorem ending (bound : Nat) : Ending bound := by
  induction bound with
  | zero => exact fun c _ hlength => absurd hlength (Nat.not_lt_zero _)
  | succ bound ih =>
    intro c hc hlength power hpower
    have hskip := hc.of_leads c.leads_skip
    have hlen := c.leads_skip.length_rest_le
    -- the end of the input takes no operand, and any other token leaves a token less for its operands
    have hfirst : ∃ t c', Runs (.procedure c.lookahead.nullProcedure) c.skip t c' := by
      rcases hrest : c.rest with _ | ⟨token, rest⟩
      · rw [Context.lookahead_of_nil hrest]
        exact ⟨_, _, .report .give⟩
      · refine ih.procedure hc.lookahead.nullProcedure hskip ?_
        rw [hrest] at hlength
        simp [hrest] at hlength ⊢
        omega
    obtain ⟨t, c', hfirst⟩ := hfirst
    obtain ⟨u, c'', hmore⟩ := ih.extension hpower (hskip.of_leads hfirst.leads) (by
      have := hfirst.leads.length_rest_le
      omega) t
    exact ⟨u, c'', .expression hfirst hmore⟩

/-- From every state an expression ends if the powers are at least zero. -/
theorem exists_runs {c : Context} {power : Int} (hc : c.Nonneg) (hpower : 0 ≤ power) :
    ∃ t c', Runs (.expression power) c t c' :=
  ending (c.rest.length + 1) hc (Nat.lt_succ_self _) hpower

/-! ### Parses are runs -/

namespace Stage

/-- Parse a stage, given how expressions inside of it are parsed. -/
def run (parse : Int → Parse Tree) : Stage → Parse Tree
  | expression power => do Parse.loop parse power (← (← Parse.advance).parseNull parse)
  | extension power operand => Parse.loop parse power operand
  | procedure steps => steps.run parse

end Stage

open Parse

/-- A parse that is decided at each depth settles, if there is room for it from some depth on. -/
theorem Parse.Settles.of_decides {α : Type} {parse : Nat → Parse α} {room : Nat → Prop} {c c' : Context} {a : α}
    {bound : Nat} (h : ∀ depth, Decides (room depth) (parse depth) c a c')
    (hroom : ∀ depth, bound ≤ depth → room depth) : Settles parse c a c' := by
  refine ⟨fun depth => ?_, bound, fun depth hdepth => (h depth).ok (hroom depth hdepth)⟩
  by_cases hdeep : room depth
  · exact .inl ((h depth).ok hdeep)
  · exact .inr ((h depth).error hdeep)

/-- A parse ends as the run does, or it fails since the nesting is too deep. -/
theorem Runs.settles {stage : Stage} {c c' : Context} {t : Tree} (h : Runs stage c t c') (hc : c.Nonneg)
    (hstage : stage.Nonneg) : Settles (fun depth => stage.run (Parse.expression depth)) c t c' := by
  obtain ⟨events, htraces⟩ := h.exists_traces
  have hdecides := htraces.decides hc hstage
  have hroom : ∀ depth, events.length ≤ depth → Shallow depth events := fun depth => shallow_of_length_le
  cases stage with
  | expression power =>
    -- the expression itself takes one of the depth
    exact .of_decides (fun depth => hdecides (depth + 1)) fun depth hdepth => hroom _ (Nat.le_succ_of_le hdepth)
  | extension | procedure => exact .of_decides hdecides hroom

/-- What has been parsed to some depth is a run. -/
theorem runs_of_expression {depth : Nat} {power : Int} {c c' : Context} {t : Tree} (hc : c.Nonneg) (hpower : 0 ≤ power)
    (h : expression depth power c = .ok t c') : Runs (.expression power) c t c' := by
  obtain ⟨u, c₀, hrun⟩ := exists_runs hc hpower
  have hsettles : Settles (fun depth => expression depth power) c u c₀ := (hrun.settles hc hpower).expression
  rcases hsettles.ok_or_error depth with hok | ⟨c'', herror⟩
  · cases h.symm.trans hok
    exact hrun
  · cases h.symm.trans herror

/-! ### Every expression ends -/

private theorem consumed_of_leads_skip {c c' : Context} (h : c.skip.Leads c') :
    c.consumed < c'.consumed ∧ c'.rest = c.rest.drop (c'.consumed - c.consumed) := by
  obtain ⟨count, added, rfl, -⟩ := h
  have hconsumed : (c.skip.drop count).consumed = c.consumed + 1 + count := rfl
  refine ⟨by simp only [hconsumed]; omega, ?_⟩
  simp only [hconsumed, Context.drop_rest, Context.skip_rest, ← List.drop_one, List.drop_drop]
  congr 1
  omega

/-- Also an expression that fails has consumed a token, if it has begun. -/
private theorem leads_skip_of_error {depth : Nat} {power : Int} {c c' : Context} {e : NestedTooDeeply}
    (h : expression depth power c = .error e c') (hdepth : 0 < depth) : c.skip.Leads c' := by
  cases depth with
  | zero => contradiction
  | succ depth =>
    have hsteady := ((parseNull_steady (expression_steady depth) c.lookahead).bind
      fun left => loop_steady (expression_steady depth) power left) c.skip
    rw [expression_succ_apply] at h
    rw [h] at hsteady
    exact hsteady

/-- From every state an expression ends, if the powers are at least zero.  It has consumed a token, and where it gives a
tree the next token does not bind more tightly than the power.  It gives none only where it is nested too deeply. -/
theorem expression_ends {c : Context} {power : Int} (hc : c.Nonneg) (hpower : 0 ≤ power) :
    ∃ t c', Runs (.expression power) c t c' ∧
      (c.consumed < c'.consumed ∧ c'.rest = c.rest.drop (c'.consumed - c.consumed)) ∧
      c'.lookahead.kind.bindingPower ≤ power ∧
      (∀ depth, expression depth power c = .ok t c' ∨ ∃ c'', expression depth power c = .error ⟨⟩ c'' ∧
        (0 < depth → c.consumed < c''.consumed ∧ c''.rest = c.rest.drop (c''.consumed - c.consumed))) ∧
      ∃ bound, ∀ depth, bound ≤ depth → expression depth power c = .ok t c' := by
  obtain ⟨t, c', hrun⟩ := exists_runs hc hpower
  have hsettles : Settles (fun depth => expression depth power) c t c' := (hrun.settles hc hpower).expression
  refine ⟨t, c', hrun, consumed_of_leads_skip hrun.leads_skip, hrun.bindingPower_le, fun depth => ?_,
    hsettles.eventually⟩
  rcases hsettles.ok_or_error depth with hok | ⟨c'', herror⟩
  · exact .inl hok
  · exact .inr ⟨c'', herror, fun hdepth => consumed_of_leads_skip (leads_skip_of_error herror hdepth)⟩

/-- A list that is not closed, with an end of the input in the middle of the tokens: `[ a ,` and `b`. -/
def unclosedList : Context where
  rest :=
    [⟨{ Kind.ofKey "[" with null := .list "list" ⟨⟨",", 0⟩, ","⟩ ⟨⟨"]", 0⟩, "]"⟩ }, "["⟩,
     ⟨{ Kind.ofKey "name" with null := .value }, "a"⟩, ⟨.ofKey ",", ","⟩, .endOfInput,
     ⟨{ Kind.ofKey "name" with null := .value }, "b"⟩]

theorem expression_ends_unclosedList :
    unclosedList.Nonneg ∧ (0 : Int) ≤ 0 ∧ ∃ c', Runs (.expression 0) unclosedList (.node [.atom "list", .atom "a"]) c' ∧
      c'.consumed = 3 ∧ c'.lookahead = .endOfInput := by
  have hnonneg : unclosedList.Nonneg := by
    simp only [Context.Nonneg, unclosedList, List.forall_mem_cons, List.not_mem_nil, false_imp_iff, implies_true]
    exact ⟨⟨trivial, trivial⟩, ⟨trivial, trivial⟩, ⟨trivial, trivial⟩, ⟨trivial, trivial⟩, ⟨trivial, trivial⟩, trivial⟩
  obtain ⟨t, c', hrun, -, -, hdepth, -⟩ := expression_ends hnonneg (Int.le_refl 0)
  have hok : ∃ c, expression 2 0 unclosedList = .ok (.node [.atom "list", .atom "a"]) c ∧ c.consumed = 3 ∧
      c.lookahead = .endOfInput := ⟨_, rfl, rfl, rfl⟩
  obtain ⟨c, hok, hconsumed, hend⟩ := hok
  rcases hdepth 2 with h | ⟨c'', h, -⟩
  · injection h.symm.trans hok with ht hc
    subst ht hc
    exact ⟨hnonneg, Int.le_refl 0, _, hrun, hconsumed, hend⟩
  · cases h.symm.trans hok

end Precedence
