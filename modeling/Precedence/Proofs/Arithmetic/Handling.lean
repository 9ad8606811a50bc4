import Precedence.Proofs.Arithmetic.Building
import Precedence.Proofs.Evaluation.Errors
import Precedence.Proofs.Script.Emission

/-!
# Trees of the parser mean something

Scripts and programs go through a tree by its form.  A tree that the parser has built has a form that means something,
made of trees that have been built (`Built.form`).  So neither of the two walks ends at a node without a meaning, and an
incomplete expression is met only where a part of the tree has failed (`Built.compiles_ofTree`, `Built.evaluates_run`).
A text that a strict parser accepts has no such part.
-/

namespace Precedence.Arithmetic

open Script

/-- The form means something, and what it is made of has been built. -/
def Meant (incomplete : Prop) : Tree.Form → Prop
  | .incomplete => incomplete
  | .atom _ => True
  | .sequence members => ∀ t ∈ members, Built incomplete t
  | .assign _ value => Built incomplete value
  | .binary _ left right | .call left right => Built incomplete left ∧ Built incomplete right
  | .negate operand => Built incomplete operand
  | .other => False

variable {incomplete : Prop}

theorem Built.form {t : Tree} (h : Built incomplete t) : Meant incomplete t.form := by
  cases h with
  | failed h => exact h
  | atom => trivial
  | negation operand => exact operand
  | @binary op l r left right => cases op <;> exact ⟨left, right⟩
  | assignment left right => exact right
  | sequence all => exact all
  | @call f a callee argument =>
    cases f with
    | failed => exact ⟨callee, argument⟩
    | node members => exact ⟨callee, argument⟩
    | atom label =>
      -- a callee may be called like a tag
      simp only [Tree.form, Tree.taggedForm]
      split
      · simpa [Meant] using argument
      · split
        · exact argument
        · exact ⟨callee, argument⟩

theorem Built.of_mem_statements {t s : Tree} (h : Built incomplete t) (hs : s ∈ t.statements) : Built incomplete s :=
  Tree.forall_statements h (fun _ hsequence => hsequence.of_sequence.2) s hs

/-! ### Scripts -/

/-- Not about a node without a meaning, and about an incomplete expression only if the text may be incomplete. -/
def AllowedInScript (incomplete : Prop) : ScriptError → Prop
  | .incomplete => incomplete
  | .unsupported _ => False
  | _ => True

/-- If the result is an error, it is an allowed one. -/
def Compiles (incomplete : Prop) {α : Type} (result : Except ScriptError α) : Prop :=
  ∀ error, result = .error error → AllowedInScript incomplete error

theorem Compiles.ok {α : Type} (a : α) : Compiles incomplete (.ok a : Except ScriptError α) := by
  intro error h
  cases h

theorem Compiles.error {α : Type} {error : ScriptError} (h : AllowedInScript incomplete error) :
    Compiles incomplete (.error error : Except ScriptError α) := by
  intro other hother
  cases hother
  exact h

theorem Compiles.bind {α β : Type} {first : Except ScriptError α} {next : α → Except ScriptError β}
    (h : Compiles incomplete first) (hnext : ∀ a, Compiles incomplete (next a)) :
    Compiles incomplete (first >>= next) := by
  cases first with
  | error error => exact .error (h error rfl)
  | ok a => exact hnext a

theorem Compiles.mapM {f : Tree → Except ScriptError String} {ts : List Tree}
    (h : ∀ t ∈ ts, Compiles incomplete (f t)) : Compiles incomplete (ts.mapM f) := by
  induction ts with
  | nil => exact .ok []
  | cons t ts ih =>
    obtain ⟨ht, hts⟩ := List.forall_mem_cons.mp h
    rw [List.mapM_cons]
    exact ht.bind fun _ => (ih hts).bind fun _ => .ok _

theorem compiles_atomText (text : String) : Compiles incomplete (atomText text) := by
  unfold atomText
  dsimp only
  split
  · split
    · exact .ok _
    · exact .error trivial
  · split
    · exact .ok _
    · exact .error trivial

theorem compiles_targetText (t : Tree) : Compiles incomplete (targetText t) := by
  unfold targetText
  split
  · split
    · exact .error trivial
    · exact compiles_atomText _
  · exact .error trivial

theorem Built.compiles_emit {t : Tree} (h : Built incomplete t) (least : Nat) : Compiles incomplete (emit t least) := by
  have hmeant := h.form
  fun_induction emit t least with
  | case1 t least hform =>
    rw [hform] at hmeant
    exact .error hmeant
  | case2 t least text hform => exact compiles_atomText text
  | case3 t least members hform => exact .error trivial
  | case4 t least target value hform ih =>
    rw [hform] at hmeant
    have hvalue : Built incomplete value := hmeant
    exact (compiles_targetText target).bind fun _ => (ih hvalue hvalue.form).bind fun _ => .ok _
  | case5 t least op left right hform ihleft ihright =>
    rw [hform] at hmeant
    obtain ⟨hleft, hright⟩ := hmeant
    exact (ihleft hleft hleft.form).bind fun _ => (ihright hright hright.form).bind fun _ => .ok _
  | case6 t least operand hform ih =>
    rw [hform] at hmeant
    have hoperand : Built incomplete operand := hmeant
    exact (ih hoperand hoperand.form).bind fun _ => .ok _
  | case7 t least callee argument hform ihcallee ihargument =>
    rw [hform] at hmeant
    obtain ⟨hcallee, hargument⟩ := hmeant
    exact (ihcallee hcallee hcallee.form).bind fun _ => (ihargument hargument hargument.form).bind fun _ => .ok _
  | case8 t least hform =>
    rw [hform] at hmeant
    exact hmeant.elim

theorem Built.compiles_statement {t : Tree} (h : Built incomplete t) : Compiles incomplete (statement t) := by
  have hmeant := h.form
  rw [statement_form]
  split
  · next target value hform =>
    rw [hform] at hmeant
    have hvalue : Built incomplete value := hmeant
    rw [expression_eq_emit]
    exact (compiles_targetText target).bind fun _ => (hvalue.compiles_emit 0).bind fun _ => .ok _
  · rw [expression_eq_emit]
    exact h.compiles_emit 0

/-- To compile a tree of the parser never fails at a node without a meaning. -/
theorem Built.compiles_ofTree {t : Tree} (h : Built incomplete t) : Compiles incomplete (ofTree t) :=
  (Compiles.mapM fun _ hs => (h.of_mem_statements hs).compiles_statement).bind fun _ => .ok _

/-! ### Programs -/

/-- Not about a node without a meaning, and about an incomplete expression only if the text may be incomplete. -/
def AllowedInRun (incomplete : Prop) : EvalError → Prop
  | .incomplete => incomplete
  | .meaningless _ => False
  | _ => True

theorem allowedInRun_of_isPlain {error : EvalError} (h : error.IsPlain) : AllowedInRun incomplete error := by
  cases error with
  | incomplete | meaningless => exact h.elim
  | _ => trivial

theorem AllowedInRun.reported [Runtime] {error : EvalError} (h : AllowedInRun incomplete error) :
    AllowedInRun incomplete error.reported := by
  rcases error.reported_eq_or with heq | heq
  · rw [heq]
    exact h
  · rw [heq]
    trivial

/-- If the outcome is an error, it is an allowed one. -/
def Evaluates (incomplete : Prop) (outcome : Outcome) : Prop :=
  ∀ error, outcome.1 = .error error → AllowedInRun incomplete error

/-- A tree of the parser has nothing else to blame. -/
theorem confines_built [Runtime] : Confines (Built incomplete) (AllowedInRun incomplete) where
  plain := fun _ => allowedInRun_of_isPlain
  reported := fun _ => AllowedInRun.reported
  blames := by
    intro t h
    have hmeant := h.form
    generalize t.form = form at hmeant ⊢
    cases form with
    | assign target value => exact ⟨fun _ => trivial, hmeant⟩
    | other => exact hmeant.elim
    | _ => exact hmeant

/-- To run a tree of the parser never fails at a node without a meaning. -/
theorem Built.evaluates_run [Runtime] {t : Tree} (h : Built incomplete t) (memory : Memory) :
    Evaluates incomplete (t.run memory) :=
  confines_built.run (fun _ hs => h.of_mem_statements hs) memory

/-! ### Results -/

/-- Whatever the text, the parser builds a tree of the nodes of the grammar, in which a part has failed only if an
unexpected token has been reported.  To compile it or to run it never fails at a node without a meaning, and for a text
that the strict parser accepts it never fails at an incomplete expression. -/
theorem parseResult_built [Runtime] {strict : Bool} {source : String} {result : ParseResult}
    (h : (parser strict).parseResult source = .ok result) :
    Built (Unexpected result.diagnostics) result.value ∧
      ∀ tree, (parser strict).parse source = .ok tree →
        (∀ t, ofTree tree ≠ .error (.unsupported t)) ∧ (∀ memory t, (tree.run memory).1 ≠ .error (.meaningless t)) ∧
        (strict → ofTree tree ≠ .error .incomplete ∧ ∀ memory, (tree.run memory).1 ≠ .error .incomplete) := by
  have hbuilt := built_of_parseResult h
  refine ⟨hbuilt, fun tree hparse => ?_⟩
  rw [parse_of_parseResult h] at hparse
  split at hparse
  · cases hparse
  next haccepted =>
  cases hparse
  refine ⟨fun t => hbuilt.compiles_ofTree _, fun memory t => hbuilt.evaluates_run memory _, fun hstrict => ?_⟩
  have hnothing : ¬ Unexpected result.diagnostics := by
    have hok : result.ok := by simpa [hstrict, parser] using haccepted
    obtain ⟨-, -, -, -, -, hnothing, -⟩ := exists_of_parseResult h hok
    rw [hnothing]
    rintro ⟨d, hmem, -⟩
    cases hmem
  exact ⟨fun herror => hnothing (hbuilt.compiles_ofTree _ herror),
    fun memory herror => hnothing (hbuilt.evaluates_run memory _ herror)⟩

/-- The tokens of `-*2`, where an operand is missing. -/
def missingOperand : List Token := [⟨.minus, "-"⟩, ⟨.times, "*"⟩, ⟨.number, "2"⟩]

/-- The reports on `-*2`. -/
def missingOperandReports : List Diagnostic :=
  [⟨.error, Diagnostic.unexpectedToken,
      "unexpected " ++ Parse.shown ⟨.times, "*"⟩ ++ " in " ++ "prefix" ++ " position", []⟩,
   ⟨.error, Diagnostic.trailingInput, "unexpected " ++ Parse.shown ⟨.number, "2"⟩ ++ " after expression", []⟩]

private theorem wholeExpression_missingOperand :
    Parse.wholeExpression Parse.depthLimit (.initial missingOperand) =
      .ok (.node [.atom "-", .failed]) ⟨[⟨.number, "2"⟩, .endOfInput], 2, missingOperandReports⟩ := rfl

theorem parseResult_built_missingOperand :
    (parser false).parseResult "-*2" = .ok ⟨.node [.atom "-", .failed], missingOperandReports, ""⟩ ∧
      Built (Unexpected missingOperandReports) (.node [.atom "-", .failed]) ∧
      (parser false).parse "-*2" = .ok (.node [.atom "-", .failed]) ∧
      (∀ t, ofTree (.node [.atom "-", .failed]) ≠ .error (.unsupported t)) ∧
      ∀ memory t, ((Tree.node [.atom "-", .failed]).run memory).1 ≠ .error (.meaningless t) := by
  have hnumber : Renders [⟨.number, "2"⟩] ['2'] :=
    (Renders.nil (List.forall_mem_nil _)).lexeme (.number (by decide)) (by simp)
  have hrenders : Renders missingOperand ['-', '*', '2'] := .mark (by decide) (.mark (by decide) hnumber)
  have htokens : tokensOf rules "-*2".toList = .ok (missingOperand, []) := tokensOf_eq_iff.mpr ⟨hrenders, nofun⟩
  rw [← parser_rules false] at htokens
  have hresult : (parser false).parseResult "-*2" = .ok ⟨.node [.atom "-", .failed], missingOperandReports, ""⟩ :=
    parseResult_eq_ok_iff.mpr ⟨missingOperand, [], _, htokens, wholeExpression_missingOperand, rfl, rfl⟩
  have hparse : (parser false).parse "-*2" = .ok (.node [.atom "-", .failed]) := parse_of_parseResult hresult
  obtain ⟨hbuilt, hhandled⟩ := parseResult_built hresult
  obtain ⟨hcompiled, hrun, -⟩ := hhandled _ hparse
  exact ⟨hresult, hbuilt, hparse, hcompiled, hrun⟩

end Precedence.Arithmetic
