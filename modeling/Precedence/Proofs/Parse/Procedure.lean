import Precedence.Proofs.Parse.Progress

/-!
# Denotations as procedures

What a token means is a short procedure of a few kinds of steps: reports, operands, looks at the next token, and the
items of a list.  `Token.nullProcedure` and `Token.leftProcedure` write the meanings down in this form, and to run the
procedure is to parse what the token means (`parseNull_eq`, `parseLeft_eq`).  So a property of parses takes a proof
for each kind of step, not for each meaning.

The loop over the items of a list never runs out of room: an item consumes a token, and at the end of the input there
are no items.  `run_items` states the loop without room, as the procedure that its first round is.
-/

namespace Precedence

/-- The steps by which a parse goes through what a token means. -/
inductive Procedure where
  /-- The tree has been parsed. -/
  | give (t : Tree)
  /-- An error is reported. -/
  | report (code message : String) (notes : List String) (next : Procedure)
  /-- An expression is parsed with the power. -/
  | operand (power : Int) (next : Tree → Procedure)
  /-- The next token, which stays where it is, decides how to go on. -/
  | look (next : Token → Procedure)
  /-- The next token is consumed. -/
  | skip (next : Procedure)
  /-- The items of a list that follow those that have been parsed. -/
  | items (separator close : Delimiter) (members : List Tree) (next : List Tree → Procedure)

namespace Procedure

/-- Run a procedure, given how expressions inside of it are parsed. -/
def run (parse : Int → Parse Tree) : Procedure → Parse Tree
  | give t => return t
  | report code message notes next => do
    Parse.report code message notes
    next.run parse
  | operand power next => do
    let t ← parse power
    (next t).run parse
  | look next => do
    let token ← Parse.lookahead
    (next token).run parse
  | skip next => do
    let _ ← Parse.advance
    next.run parse
  | items separator close members next => do
    let more ← Parse.items parse separator close (← get).rest
    (next (members ++ more)).run parse

/-- The report on a token in a place where it means nothing. -/
def unexpected (token : Token) (place : String) : Procedure :=
  .report Diagnostic.unexpectedToken ("unexpected " ++ Parse.shown token ++ " in " ++ place ++ " position") []
    (.give .failed)

/-- The delimiter is consumed, or it is reported as missing. -/
def expect (delimiter : Delimiter) (note : String) (next : Procedure) : Procedure :=
  .look fun token =>
    if token.is delimiter then .skip next
    else .report Diagnostic.expectedToken ("expected " ++ delimiter.name ++ ", got " ++ Parse.shown token)
      (if note = "" then [] else [note]) next

/-- Whether the token ends the input or closes what has been opened. -/
def ends (close : Delimiter) (token : Token) : Bool := token.isEnd || token.is close

/-- The first round of the loop over the items of a list, and what follows it. -/
def firstItem (separator close : Delimiter) (members : List Tree) (next : List Tree → Procedure) : Procedure :=
  .look fun token =>
    if ends close token then next members
    else .operand 0 fun t => .look fun token =>
      if token.is separator then .skip (.items separator close (members ++ [t]) next) else next (members ++ [t])

end Procedure

/-! ### What tokens mean -/

open Procedure in
/-- What a token means at the start of an expression, as a procedure. -/
def NullDenotation.procedure (token : Token) : NullDenotation → Procedure
  | unexpected => Procedure.unexpected token "prefix"
  | value => give (.atom token.value)
  | absent => give .failed
  | operand power => .operand power give
  | negation power => .operand power fun t => give t.negated
  | labelled label power => .operand power fun t => give (.node [.atom label, t])
  | group close note => .operand 0 fun inner => expect close note (give inner)
  | fault code message notes => report code message notes (give .failed)
  | list label separator close =>
    items separator close [] fun members => expect close "" (give (.node (.atom label :: members)))

open Procedure in
/-- What a token means after an expression, as a procedure. -/
def LeftDenotation.procedure (token : Token) (left : Tree) : LeftDenotation → Procedure
  | unexpected => Procedure.unexpected token "infix"
  | binary label power => operand power fun right => give (.node [.atom label, left, right])
  | operation => operand token.kind.bindingPower fun right => give (.node [.atom token.kind.name, left, right])
  | assignment => operand token.kind.bindingPower fun right => give (.node [.atom Tree.assignLabel, left, right])
  | sequence close =>
    look fun next =>
      if ends close next then give (left.followedBy none)
      else operand token.kind.bindingPower fun right => give (left.followedBy right.succeeded?)
  | call close note => operand 0 fun argument => expect close note (give (.node [left, argument]))
  | postfixed label => give (.node [.atom label, left])
  | ternary label separator power =>
    operand 0 fun middle => expect separator "" (operand power fun right =>
      give (.node [.atom label, left, middle, right]))
  | index label close note => operand 0 fun inner => expect close note (give (.node [.atom label, left, inner]))

/-! ### Steps of procedures -/

namespace Procedure

variable (parse : Int → Parse Tree) (c : Context)

theorem run_operand (power : Int) (next : Tree → Procedure) :
    (operand power next).run parse c = (parse power >>= fun t => (next t).run parse) c := rfl

theorem run_look (next : Token → Procedure) : (look next).run parse c = (next c.lookahead).run parse c := rfl

theorem run_skip (next : Procedure) : (skip next).run parse c = next.run parse c.skip := rfl

theorem run_expect (delimiter : Delimiter) (note : String) (next : Procedure) :
    (expect delimiter note next).run parse c = (Parse.expect delimiter note >>= fun _ => next.run parse) c := by
  rw [expect, run_look, Parse.bind_apply, Parse.expect_apply]
  split <;> rfl

end Procedure

namespace Token

/-- The procedure of a token at the start of an expression. -/
def nullProcedure (token : Token) : Procedure := token.kind.null.procedure token

/-- The procedure of a token after an expression. -/
def leftProcedure (token : Token) (left : Tree) : Procedure := token.kind.left.procedure token left

theorem parseNull_eq (parse : Int → Parse Tree) (token : Token) :
    token.parseNull parse = token.nullProcedure.run parse := by
  unfold parseNull nullProcedure
  cases token.kind.null with
  | operand power => exact (bind_pure (parse power)).symm
  | group close note =>
    refine bind_congr fun inner => funext fun c => ?_
    rw [Procedure.run_expect]
    rfl
  | list label separator close =>
    refine bind_congr fun c => bind_congr fun members => funext fun c' => ?_
    show _ = (Procedure.expect close "" (Procedure.give (.node (.atom label :: members)))).run parse c'
    rw [Procedure.run_expect]
    rfl
  | _ => rfl

theorem parseLeft_eq (parse : Int → Parse Tree) (token : Token) (left : Tree) :
    token.parseLeft parse left = (token.leftProcedure left).run parse := by
  unfold parseLeft leftProcedure
  cases token.kind.left with
  | sequence close =>
    funext c
    show (if Procedure.ends close c.lookahead then _ else _ : Parse Tree) c = _
    unfold LeftDenotation.procedure
    rw [Procedure.run_look]
    split <;> rfl
  | call close note | index label close note =>
    refine bind_congr fun inner => funext fun c => ?_
    rw [Procedure.run_expect]
    rfl
  | ternary label separator power =>
    refine bind_congr fun middle => funext fun c => ?_
    rw [Procedure.run_expect]
    rfl
  | _ => rfl

end Token

/-! ### Powers -/

/-- All powers that operands are parsed with are at least zero. -/
def Procedure.Nonneg : Procedure → Prop
  | give _ => True
  | report _ _ _ next | skip next => next.Nonneg
  | operand power next => 0 ≤ power ∧ ∀ t, (next t).Nonneg
  | look next => ∀ token, (next token).Nonneg
  | items _ _ _ next => ∀ members, (next members).Nonneg

theorem Procedure.Nonneg.firstItem {separator close : Delimiter} {members : List Tree} {next : List Tree → Procedure}
    (h : (items separator close members next).Nonneg) : (firstItem separator close members next).Nonneg := by
  intro token
  show (if ends close token then _ else _ : Procedure).Nonneg
  split
  · exact h members
  · refine ⟨Int.le_refl 0, fun t token => ?_⟩
    show (if token.is separator then _ else _ : Procedure).Nonneg
    split
    · exact h
    · exact h _

/-- The powers that are given for the operands are at least zero. -/
def NullDenotation.Nonneg : NullDenotation → Prop
  | operand power | negation power | labelled _ power => 0 ≤ power
  | _ => True

/-- The powers that are given for the operands are at least zero.  An operation, an assignment and a sequence hand on
the power that the token binds with, whatever that is: where it is negative, the token is never asked. -/
def LeftDenotation.Nonneg : LeftDenotation → Prop
  | binary _ power | ternary _ _ power => 0 ≤ power
  | _ => True

/-- What tokens of the kind mean parses its operands with powers of at least zero. -/
structure Kind.Nonneg (kind : Kind) : Prop where
  null : kind.null.Nonneg
  left : kind.left.Nonneg

theorem Procedure.nonneg_expect {delimiter : Delimiter} {note : String} {next : Procedure} (h : next.Nonneg) :
    (expect delimiter note next).Nonneg := by
  intro token
  show (if token.is delimiter then _ else _ : Procedure).Nonneg
  split <;> exact h

theorem Kind.Nonneg.nullProcedure {token : Token} (h : token.kind.Nonneg) : token.nullProcedure.Nonneg := by
  have hnull := h.null
  unfold Token.nullProcedure
  cases hkind : token.kind.null with
  | unexpected | value | absent | fault => trivial
  | operand power | negation power | labelled label power =>
    rw [hkind] at hnull
    exact ⟨hnull, fun _ => trivial⟩
  | group close note => exact ⟨Int.le_refl 0, fun _ => Procedure.nonneg_expect trivial⟩
  | list label separator close => exact fun _ => Procedure.nonneg_expect trivial

theorem Kind.Nonneg.leftProcedure {token : Token} (h : token.kind.Nonneg) (hbinding : 0 ≤ token.kind.bindingPower)
    (left : Tree) : (token.leftProcedure left).Nonneg := by
  have hleft := h.left
  unfold Token.leftProcedure
  cases hkind : token.kind.left with
  | unexpected | postfixed => trivial
  | binary label power =>
    rw [hkind] at hleft
    exact ⟨hleft, fun _ => trivial⟩
  | operation | assignment => exact ⟨hbinding, fun _ => trivial⟩
  | sequence close =>
    intro next
    show (if Procedure.ends close next then _ else _ : Procedure).Nonneg
    split
    · trivial
    · exact ⟨hbinding, fun _ => trivial⟩
  | call close note | index label close note => exact ⟨Int.le_refl 0, fun _ => Procedure.nonneg_expect trivial⟩
  | ternary label separator power =>
    rw [hkind] at hleft
    exact ⟨Int.le_refl 0, fun _ => Procedure.nonneg_expect ⟨hleft, fun _ => trivial⟩⟩

/-- All tokens that are left mean something with powers of at least zero. -/
def Context.Nonneg (c : Context) : Prop := ∀ token ∈ c.rest, token.kind.Nonneg

theorem Context.Nonneg.lookahead {c : Context} (h : c.Nonneg) : c.lookahead.kind.Nonneg :=
  Context.lookahead_of_forall h ⟨trivial, trivial⟩

theorem Context.Nonneg.of_leads {c c' : Context} (h : c.Nonneg) (hc : c.Leads c') : c'.Nonneg :=
  fun token hmem => h token (hc.mem_rest hmem)

/-! ### The loop over the items of a list -/

namespace Parse

/-- A way to parse expressions in which each of them consumes a token. -/
structure Consuming (parse : Int → Parse Tree) : Prop where
  steady : ∀ power, Steady (parse power)
  leads_skip : ∀ {power c t c'}, parse power c = .ok t c' → c.skip.Leads c'

theorem expression_consuming (depth : Nat) : Consuming (expression depth) := by
  refine ⟨expression_steady depth, fun {power c t c'} hrun => ?_⟩
  cases depth with
  | zero => cases hrun
  | succ depth =>
    rw [expression_succ_apply] at hrun
    have hsteady := (parseNull_steady (expression_steady depth) c.lookahead).bind
      fun left => loop_steady (expression_steady depth) power left
    exact hsteady.leads hrun

theorem rest_length_pos_of_not_ends {c : Context} {close : Delimiter} (h : ¬ Procedure.ends close c.lookahead) :
    0 < c.rest.length := by
  rcases hrest : c.rest with _ | ⟨token, rest⟩
  · rw [Context.lookahead_of_nil hrest] at h
    exact absurd rfl h
  · simp

section

variable {parse : Int → Parse Tree} {separator close : Delimiter}

/-- One more item, and what follows it if a separator comes next. -/
theorem items_cons_apply (token : Token) (room : List Token) (c : Context) :
    items parse separator close (token :: room) c =
      if Procedure.ends close c.lookahead then .ok [] c
      else match parse 0 c with
        | .error e c' => .error e c'
        | .ok t c' =>
          if c'.lookahead.is separator then
            (items parse separator close room >>= fun more => return t :: more) c'.skip
          else .ok [t] c' := by
  show (if Procedure.ends close c.lookahead then _ else _ : Parse (List Tree)) c = _
  split
  · rfl
  · rw [bind_apply]
    cases parse 0 c with
    | error e c' => rfl
    | ok t c' =>
      show (if c'.lookahead.is separator then _ else _ : Parse (List Tree)) c' =
        if c'.lookahead.is separator then _ else _
      split <;> rfl

/-- Without a token left the list ends, with any room. -/
theorem items_of_rest_nil (room : List Token) {c : Context} (hc : c.rest = []) :
    items parse separator close room c = .ok [] c := by
  cases room with
  | nil => rfl
  | cons token room =>
    rw [items_cons_apply, Context.lookahead_of_nil hc, if_pos]
    rfl

/-- The room makes no difference if it has a place for each of the tokens that are left. -/
theorem items_congr_room (hparse : Consuming parse) {r₁ r₂ : List Token} {c : Context} (h₁ : c.rest.length ≤ r₁.length)
    (h₂ : c.rest.length ≤ r₂.length) :
    items parse separator close r₁ c = items parse separator close r₂ c := by
  induction r₁ generalizing r₂ c with
  | nil =>
    have hc : c.rest = [] := List.eq_nil_of_length_eq_zero (by simpa using h₁)
    rw [items_of_rest_nil _ hc, items_of_rest_nil _ hc]
  | cons token r₁ ih =>
    cases r₂ with
    | nil =>
      have hc : c.rest = [] := List.eq_nil_of_length_eq_zero (by simpa using h₂)
      rw [items_of_rest_nil _ hc, items_of_rest_nil _ hc]
    | cons token' r₂ =>
      rw [items_cons_apply, items_cons_apply]
      split
      · rfl
      · rename_i hgoesOn
        cases hitem : parse 0 c with
        | error e c' => rfl
        | ok t c' =>
          -- a place of the room is given up for the item, and the item is at least a token
          have hlen := (hparse.leads_skip hitem).length_rest_le
          have hpos := rest_length_pos_of_not_ends hgoesOn
          simp only [Context.skip_rest, List.length_tail] at hlen
          simp only [List.length_cons] at h₁ h₂
          have hrest : c'.skip.rest.length = c'.rest.length - 1 := by simp
          have hmore : items parse separator close r₁ c'.skip = items parse separator close r₂ c'.skip :=
            ih (by omega) (by omega)
          simp only [bind_apply, hmore]

/-- The loop over the items of a list goes through its first round, and then through what follows that. -/
theorem run_items (hparse : Consuming parse) (members : List Tree) (next : List Tree → Procedure) (c : Context) :
    (Procedure.items separator close members next).run parse c =
      (Procedure.firstItem separator close members next).run parse c := by
  have hrun : ∀ (members : List Tree) (c : Context), (Procedure.items separator close members next).run parse c =
      (items parse separator close c.rest >>= fun more => (next (members ++ more)).run parse) c := fun _ _ => rfl
  have hroom : items parse separator close c.rest c = items parse separator close (.endOfInput :: c.rest) c :=
    items_congr_room hparse (Nat.le_refl _) (by simp)
  rw [hrun, bind_apply, hroom, items_cons_apply, Procedure.firstItem, Procedure.run_look]
  by_cases hends : Procedure.ends close c.lookahead
  · rw [if_pos hends, if_pos hends]
    show (next (members ++ [])).run parse c = _
    rw [List.append_nil]
  · rw [if_neg hends, if_neg hends, Procedure.run_operand, bind_apply]
    cases hitem : parse 0 c with
    | error e c' => rfl
    | ok t c' =>
      simp only [Procedure.run_look]
      by_cases hseparator : c'.lookahead.is separator
      · rw [if_pos hseparator, if_pos hseparator]
        -- the room that is left is as good as one of the tokens that are left
        have hlen := (hparse.leads_skip hitem).length_rest_le
        have hmore : items parse separator close c.rest c'.skip = items parse separator close c'.skip.rest c'.skip :=
          items_congr_room hparse (by simp at hlen ⊢; omega) (Nat.le_refl _)
        rw [Procedure.run_skip, hrun, bind_apply, bind_apply, hmore]
        cases items parse separator close c'.skip.rest c'.skip with
        | error e c'' => rfl
        | ok more c'' =>
          show (next (members ++ t :: more)).run parse c'' = (next (members ++ [t] ++ more)).run parse c''
          rw [List.append_assoc, List.singleton_append]
      · rw [if_neg hseparator, if_neg hseparator]

end

end Parse

end Precedence
