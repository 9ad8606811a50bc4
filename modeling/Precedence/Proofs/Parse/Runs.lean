import Precedence.Proofs.Parse.Procedure

/-!
# Runs of parses

`Runs` says how a parse goes on, step by step, with nothing to bound its nesting or its loops: the loop over operators
goes on as long as the next token binds tightly enough, and the loop over the items of a list as long as separators
follow.  So a run, which is finite, ends by its own conditions.
-/

namespace Precedence

/-- A stage of a parse. -/
inductive Stage where
  /-- A whole expression. -/
  | expression (power : Int)
  /-- Further operators after an operand. -/
  | extension (power : Int) (operand : Tree)
  /-- What a token means. -/
  | procedure (steps : Procedure)

/-- All powers of the stage are at least zero. -/
def Stage.Nonneg : Stage → Prop
  | expression power | extension power _ => 0 ≤ power
  | procedure steps => steps.Nonneg

/-- From the first state on the stage ends with the tree, in the second state. -/
inductive Runs : Stage → Context → Tree → Context → Prop
  | expression {power : Int} {c c' c'' : Context} {t u : Tree}
      (first : Runs (.procedure c.lookahead.nullProcedure) c.skip t c') (more : Runs (.extension power t) c' u c'') :
      Runs (.expression power) c u c''
  | stop {power : Int} {c : Context} {t : Tree} (weak : c.lookahead.kind.bindingPower ≤ power) :
      Runs (.extension power t) c t c
  | extend {power : Int} {c c' c'' : Context} {t u v : Tree} (tight : power < c.lookahead.kind.bindingPower)
      (next : Runs (.procedure (c.lookahead.leftProcedure t)) c.skip u c') (more : Runs (.extension power u) c' v c'') :
      Runs (.extension power t) c v c''
  | give {c : Context} {t : Tree} : Runs (.procedure (.give t)) c t c
  | report {code message : String} {notes : List String} {next : Procedure} {c c' : Context} {t : Tree}
      (more : Runs (.procedure next) (c.add ⟨.error, code, message, notes⟩) t c') :
      Runs (.procedure (.report code message notes next)) c t c'
  | operand {power : Int} {next : Tree → Procedure} {c c' c'' : Context} {t u : Tree}
      (inner : Runs (.expression power) c t c') (more : Runs (.procedure (next t)) c' u c'') :
      Runs (.procedure (.operand power next)) c u c''
  | look {next : Token → Procedure} {c c' : Context} {t : Tree} (more : Runs (.procedure (next c.lookahead)) c t c') :
      Runs (.procedure (.look next)) c t c'
  | skip {next : Procedure} {c c' : Context} {t : Tree} (more : Runs (.procedure next) c.skip t c') :
      Runs (.procedure (.skip next)) c t c'
  | items {separator close : Delimiter} {members : List Tree} {next : List Tree → Procedure} {c c' : Context} {t : Tree}
      (round : Runs (.procedure (.firstItem separator close members next)) c t c') :
      Runs (.procedure (.items separator close members next)) c t c'

/-! ### What a run does to the state -/

/-- A run leads on, and that of an expression consumes a token. -/
theorem Runs.leads {stage : Stage} {c c' : Context} {t : Tree} (h : Runs stage c t c') : c.Leads c' := by
  induction h with
  | expression _ _ ihfirst ihmore => exact (Context.leads_skip _).trans (ihfirst.trans ihmore)
  | stop | give => exact .refl _
  | extend _ _ _ ihnext ihmore => exact (Context.leads_skip _).trans (ihnext.trans ihmore)
  | report _ ih => exact (Context.leads_add _ rfl).trans ih
  | operand _ _ ihinner ihmore => exact ihinner.trans ihmore
  | look _ ih | items _ ih => exact ih
  | skip _ ih => exact (Context.leads_skip _).trans ih

theorem Runs.leads_skip {power : Int} {c c' : Context} {t : Tree} (h : Runs (.expression power) c t c') :
    c.skip.Leads c' := by
  cases h with
  | expression first more => exact first.leads.trans more.leads

/-- The loop over operators ends in front of a token that does not bind more tightly than the power. -/
theorem Runs.bindingPower_le_of_extension {power : Int} {operand t : Tree} {c c' : Context}
    (h : Runs (.extension power operand) c t c') : c'.lookahead.kind.bindingPower ≤ power := by
  generalize hstage : Stage.extension power operand = stage at h
  induction h generalizing operand with
  | stop weak =>
    cases hstage
    exact weak
  | extend _ _ _ _ ihmore =>
    cases hstage
    exact ihmore rfl
  | _ => cases hstage

theorem Runs.bindingPower_le {power : Int} {c c' : Context} {t : Tree} (h : Runs (.expression power) c t c') :
    c'.lookahead.kind.bindingPower ≤ power := by
  cases h with
  | expression _ more => exact more.bindingPower_le_of_extension

end Precedence
