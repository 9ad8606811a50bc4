import Precedence.Proofs.Arithmetic.Spacing
import Precedence.Proofs.Command.Announcement
import Precedence.Proofs.Evaluation.BigStep
import Precedence.Proofs.Script.Emission

/-!
# Which errors are reported

Without settings, `compile` and `eval` take any expression, and they end with the exit code 0 or 1.  A text that is
refused is reported (`parseAndReport_strict`); so are the errors of a tree that cannot be compiled and most errors of a
run.  What escapes the commands are errors about numbers with too many digits, and about a node that is too deep to be
shown.  `runCommand_reports` says for each of the two commands exactly when that happens.
-/

namespace Precedence

open Arithmetic (parser)

/-! ### Reports -/

/-- No error has escaped the command, and it has succeeded or announced an error. -/
def Report.Orderly (report : Report) : Prop :=
  report.escaped? = none ∧ (report.exitCode = 0 ∨ report.exitCode = 1 ∧ Announces report.errors)

/-- The command has announced an error and has no output. -/
structure Report.Refuses (report : Report) : Prop where
  exitCode : report.exitCode = 1
  output : report.output = ""
  escaped? : report.escaped? = none
  announces : Announces report.errors

namespace Report

theorem Refuses.orderly {report : Report} (h : report.Refuses) : report.Orderly :=
  ⟨h.escaped?, .inr ⟨h.exitCode, h.announces⟩⟩

theorem not_orderly_of_escaped {report : Report} {error : Escaped} (h : report.escaped? = some error) :
    ¬ report.Orderly := by
  rintro ⟨hnone, -⟩
  cases h.symm.trans hnone

theorem refuses_failWith (message : String) : (({} : Report).failWith message).Refuses :=
  ⟨rfl, rfl, rfl, announces_failWith message⟩

theorem Orderly.plain {report : Report} (h : report.Orderly) : report.plain.Orderly :=
  ⟨h.1, h.2.imp_right fun hfails => ⟨hfails.1, hfails.2.plain⟩⟩

/-- The report as it is shown, in color or not. -/
def shown (report : Report) (color : Bool) : Report := if color then report else report.plain

@[simp] theorem shown_exitCode (report : Report) (color : Bool) : (report.shown color).exitCode = report.exitCode := by
  cases color <;> rfl

@[simp] theorem shown_escaped? (report : Report) (color : Bool) : (report.shown color).escaped? = report.escaped? := by
  cases color <;> rfl

theorem shown_output {report : Report} (h : report.output = "") (color : Bool) : (report.shown color).output = "" := by
  cases color with
  | false =>
    show String.ofList (withoutEscapes report.output.toList) = ""
    simp [h, withoutEscapes]
  | true => exact h

theorem Orderly.shown {report : Report} (h : report.Orderly) (color : Bool) : (report.shown color).Orderly := by
  cases color with
  | false => exact h.plain
  | true => exact h

end Report

/-! ### Expressions -/

/-- The strict parser accepts a text without a report, or it refuses the text and announces an error. -/
theorem parseAndReport_strict [Runtime] (source : String) :
    (∃ tree, (parser true).parse source = .ok tree ∧ parseAndReport (parser true) true source = .ok (tree, {})) ∨
      (∀ tree, (parser true).parse source ≠ .ok tree) ∧
        ∃ report, parseAndReport (parser true) true source = .error report ∧ report.Refuses := by
  obtain ⟨lexed, hlex⟩ := Arithmetic.exists_lex source
  unfold parseAndReport
  cases hresult : (parser true).parseResult source with
  | error failure =>
    have hparse : ∀ tree, (parser true).parse source ≠ .ok tree := by
      intro tree h
      rw [Parser.parse, hresult] at h
      cases h
    refine .inr ⟨hparse, ?_⟩
    cases failure with
    | unusable error =>
      -- a text is always cut into tokens
      unfold Parser.parseResult Parser.lex at hresult
      rw [Arithmetic.parser_rules, hlex] at hresult
      dsimp only at hresult
      split at hresult <;> cases hresult
    | nestedTooDeeply => exact ⟨_, rfl, Report.refuses_failWith _⟩
    | rejected diagnostics => exact ⟨_, rfl, Report.refuses_failWith _⟩
  | ok result =>
    have hparse := parse_of_parseResult hresult
    cases hok : result.ok with
    | true =>
      rw [hok] at hparse
      obtain ⟨-, -, -, -, -, hnothing, -⟩ := exists_of_parseResult hresult hok
      refine .inl ⟨result.value, hparse, ?_⟩
      simp only [hok, hnothing, Report.addDiagnostics]
      rfl
    | false =>
      have hstrict : (parser true).strict = true := rfl
      rw [hok, hstrict] at hparse
      have hnone : ∀ tree, (parser true).parse source ≠ .ok tree := by
        intro tree h
        cases hparse.symm.trans h
      refine .inr ⟨hnone, ?_⟩
      simp only [hok, hstrict, Bool.not_false, Bool.and_self, if_true]
      -- all problems are errors, so the first one is
      cases hdiagnostics : result.diagnostics with
      | nil => simp [ParseResult.ok, hasErrors, hdiagnostics] at hok
      | cons d diagnostics =>
        obtain ⟨hseverity, hcode⟩ := Arithmetic.code_of_parseResult hresult d (by simp [hdiagnostics])
        have hannounces := Report.announces_addDiagnostics true diagnostics hseverity hcode
        obtain ⟨more, hmore⟩ := Report.exists_addDiagnostics {} true (d :: diagnostics)
        rw [hmore] at hannounces ⊢
        exact ⟨_, rfl, rfl, rfl, rfl, hannounces⟩

section

variable [Runtime] {parser : Parser} {color : Bool} {source : String} {tree : Tree} {report : Report}

/-- A verb that goes on with a tree ends where there is none. -/
theorem Verb.run_of_error {verb : Verb} (hverb : verb ≠ .tokens)
    (h : parseAndReport parser color source = .error report) : verb.run parser color false source = report := by
  cases verb with
  | tokens => exact absurd rfl hverb
  | parse | compile | eval => simp only [Verb.run, h]

theorem Verb.run_compile_of_ok (h : parseAndReport parser color source = .ok (tree, report)) :
    Verb.compile.run parser color false source = compileTree tree report := by
  simp only [Verb.run, h]

theorem Verb.run_eval_of_ok (h : parseAndReport parser color source = .ok (tree, report)) :
    Verb.eval.run parser color false source = evalTree tree report := by
  simp only [Verb.run, h]

end

/-- Without settings, an expression that follows `--` is run with the strict parser of the arithmetic grammar. -/
theorem runCommand_expression [Runtime] {system : FileSystem} {directory : Path}
    (unset : system.findSettings? directory = none) {name : String} {verb : Verb}
    (hname : Verb.ofName? name = some verb) (hoption : ¬ isOption name) (color : Bool) (source : String) :
    runCommand system directory color [name, "--", source] =
      .finished ((verb.run (parser true) true false source).shown color) := by
  have hdash : name ≠ "--" := by
    rintro rfl
    simp [isOption] at hoption
  have hline : ProgramLine.read? {} [name, "--", source] = some { rest := [name, "--", source] } := by
    simp [ProgramLine.read?, hdash, hoption]
  have hverb : VerbLine.read? verb {} ["--", source] = some { expressions := [source] } := by
    simp [VerbLine.read?]
  have hsettings : system.settings directory none = .ok {} := by
    simp only [FileSystem.settings, unset]
  have hparser : ({} : Settings).parser .arithmetic = .ok (parser true) := rfl
  simp only [runCommand, runProgram, hline, FileSystem.hasConfig, hname, hsettings, Verb.runWith, hverb, hparser]
  rfl

/-! ### Compilation -/

/-- A tree is compiled or refused, unless a number in it has too many digits. -/
theorem compileTree_cases (t : Tree) :
    (∃ digits, Script.ofTree t = .error (.literalTooLong digits) ∧
        compileTree t {} = ({} : Report).escape (.script (.literalTooLong digits))) ∨
      (∀ digits, Script.ofTree t ≠ .error (.literalTooLong digits)) ∧
        ((compileTree t {}).exitCode = 0 ∨ (compileTree t {}).Refuses) ∧ (compileTree t {}).Orderly := by
  unfold compileTree
  cases Script.ofTree t with
  | ok text => exact .inr ⟨nofun, .inl rfl, rfl, .inl rfl⟩
  | error error =>
    cases error with
    | literalTooLong digits => exact .inl ⟨digits, rfl, rfl⟩
    | _ => exact .inr ⟨nofun, .inr (Report.refuses_failWith _), (Report.refuses_failWith _).orderly⟩

/-! ### Evaluation -/

/-- The value is an integer with too many digits to be printed. -/
def Value.TooLong : Value → Prop
  | int n => Number.tenTo digitLimit ≤ n.natAbs
  | _ => False

theorem Value.text_of_tooLong {value : Value} (h : value.TooLong) :
    value.text = .error .integerTooLong ∧ value.echoText = .error .integerTooLong := by
  cases value with
  | int n =>
    simp only [TooLong] at h
    simp only [echoText, text, Nat.not_lt.mpr h, if_false, and_self]
  | _ => exact h.elim

theorem Value.exists_text {value : Value} (h : ¬ value.TooLong) :
    (∃ text, value.text = .ok text) ∧ ∃ text, value.echoText = .ok text := by
  cases value with
  | none => exact ⟨⟨_, rfl⟩, ⟨_, rfl⟩⟩
  | int n =>
    simp only [TooLong] at h
    simp only [echoText, text, Nat.not_le.mp h, if_true]
    exact ⟨⟨_, rfl⟩, ⟨_, rfl⟩⟩
  | float x => exact ⟨⟨_, rfl⟩, ⟨_, rfl⟩⟩
  | echo => exact ⟨⟨_, rfl⟩, ⟨_, rfl⟩⟩

/-- Values that are not too long are all printed. -/
theorem exists_printEchoed {values : List Value} (h : ∀ value ∈ values, ¬ value.TooLong) (report : Report) :
    ∃ more, printEchoed report values = .ok { report with output := report.output ++ more } := by
  induction values generalizing report with
  | nil => exact ⟨"", by simp [printEchoed]⟩
  | cons value values ih =>
    obtain ⟨hvalue, hvalues⟩ := List.forall_mem_cons.mp h
    obtain ⟨-, text, htext⟩ := Value.exists_text hvalue
    obtain ⟨more, hmore⟩ := ih hvalues (report.addLine text)
    refine ⟨text ++ "\n" ++ more, ?_⟩
    rw [printEchoed, htext]
    simpa only [Report.addLine, String.append_assoc] using hmore

/-- The first value that is too long escapes. -/
theorem printEchoed_escapes {values : List Value} (h : ∃ value ∈ values, value.TooLong) (report : Report) :
    ∃ printed : Report, printEchoed report values = .error (printed.escape (.evaluation .integerTooLong)) := by
  induction values generalizing report with
  | nil => simp at h
  | cons value values ih =>
    by_cases hvalue : value.TooLong
    · refine ⟨report, ?_⟩
      rw [printEchoed, (Value.text_of_tooLong hvalue).2]
    · obtain ⟨-, text, htext⟩ := Value.exists_text hvalue
      rw [printEchoed, htext]
      refine ih ?_ (report.addLine text)
      simpa [hvalue] using h

/-- An error about a number of too many digits, or about a node that is too deep to be shown. -/
def EvalError.Unforeseen (error : EvalError) : Prop :=
  (∃ digits, error = .literalTooLong digits) ∨ error = .integerTooLong ∨ error = .nestedTooDeeply

theorem EvalError.isReported_iff {error : EvalError} : error.isReported ↔ ¬ error.Unforeseen := by
  cases error <;> simp [isReported, Unforeseen]

/-- Something that has been echoed or the result is too long to be printed, or an unforeseen error has ended the run. -/
def Outcome.Unprintable (outcome : Outcome) : Prop :=
  (∃ value ∈ outcome.2.echoed, value.TooLong) ∨ (∃ value, outcome.1 = .ok value ∧ value.TooLong) ∨
    ∃ error, outcome.1 = .error error ∧ error.Unforeseen

theorem printResult_of_tooLong {value : Value} (h : value.TooLong) (report : Report) :
    printResult report (.ok value) = report.escape (.evaluation .integerTooLong) := by
  cases value with
  | int n => simp only [printResult, (Value.text_of_tooLong h).1]
  | _ => exact h.elim

theorem orderly_printResult {value : Value} (h : ¬ value.TooLong) {report : Report} (hreport : report.Orderly) :
    (printResult report (.ok value)).Orderly := by
  obtain ⟨⟨text, htext⟩, -⟩ := Value.exists_text h
  cases value with
  | none => exact hreport
  | _ =>
    simp only [printResult, htext]
    exact hreport

/-- The outcome of a run is printed, or an error escapes. -/
theorem evalTree_cases [Runtime] (t : Tree) :
    (t.run .empty).Unprintable ∧ (evalTree t {}).exitCode = 1 ∧
        (∃ error : EvalError, error.Unforeseen ∧ (evalTree t {}).escaped? = some (.evaluation error)) ∨
      ¬ (t.run .empty).Unprintable ∧ (evalTree t {}).Orderly := by
  have hlong : EvalError.integerTooLong.Unforeseen := .inr (.inl rfl)
  unfold evalTree
  rcases houtcome : t.run .empty with ⟨result, memory⟩
  dsimp only
  by_cases hechoed : ∃ value ∈ memory.echoed, value.TooLong
  · obtain ⟨printed, hprinted⟩ := printEchoed_escapes hechoed {}
    rw [hprinted]
    exact .inl ⟨.inl hechoed, rfl, _, hlong, rfl⟩
  · obtain ⟨more, hmore⟩ := exists_printEchoed (by simpa using hechoed) {}
    rw [hmore]
    dsimp only
    cases result with
    | ok value =>
      by_cases hvalue : value.TooLong
      · refine .inl ⟨.inr (.inl ⟨value, rfl, hvalue⟩), ?_⟩
        rw [printResult_of_tooLong hvalue]
        exact ⟨rfl, _, hlong, rfl⟩
      · refine .inr ⟨?_, orderly_printResult hvalue ⟨rfl, .inl rfl⟩⟩
        rintro (h | ⟨_, ⟨⟩, h⟩ | ⟨_, ⟨⟩, -⟩)
        · exact hechoed h
        · exact hvalue h
    | error error =>
      by_cases herror : error.Unforeseen
      · refine .inl ⟨.inr (.inr ⟨error, rfl, herror⟩), ?_⟩
        have hreported : ¬ error.isReported := fun h => EvalError.isReported_iff.mp h herror
        simp only [printResult, hreported]
        exact ⟨rfl, error, herror, rfl⟩
      · refine .inr ⟨?_, ?_⟩
        · rintro (h | ⟨_, ⟨⟩, -⟩ | ⟨_, ⟨⟩, h⟩)
          · exact hechoed h
          · exact herror h
        · have hreported : error.isReported := EvalError.isReported_iff.mpr herror
          simp only [printResult, hreported, if_true]
          exact ⟨rfl, .inr ⟨rfl, Report.announces_failWith error.message⟩⟩

/-! ### Commands -/

section

variable [Runtime] {system : FileSystem} {directory : Path} (unset : system.findSettings? directory = none)
  (color : Bool) (source : String)
include unset

/-- A compilation ends with the exit code 0, or with 1 and without output.  An error escapes it exactly if a number in
the tree has too many digits. -/
theorem runCommand_compile :
    ∃ report, runCommand system directory color ["compile", "--", source] = .finished report ∧
      (report.exitCode = 0 ∨ report.exitCode = 1 ∧ report.output = "") ∧
      (report.Orderly ↔ ∀ tree, (parser true).parse source = .ok tree →
        ∀ digits, Script.ofTree tree ≠ .error (.literalTooLong digits)) := by
  refine ⟨_, runCommand_expression unset rfl (by simp [isOption]) color source, ?_⟩
  rcases parseAndReport_strict source with ⟨tree, hparse, hgo⟩ | ⟨hnone, report, hstop, hrefuses⟩
  · rw [Verb.run_compile_of_ok hgo]
    rcases compileTree_cases tree with ⟨digits, htree, hcompiled⟩ | ⟨htree, hends, horderly⟩
    · rw [hcompiled]
      refine ⟨.inr ⟨Report.shown_exitCode _ _, Report.shown_output rfl color⟩, ?_⟩
      have hescaped := Report.not_orderly_of_escaped (Report.shown_escaped?
        (({} : Report).escape (.script (.literalTooLong digits))) color)
      exact iff_of_false hescaped fun h => h tree hparse digits htree
    · refine ⟨?_, iff_of_true (horderly.shown color) fun other hother => ?_⟩
      · rw [Report.shown_exitCode]
        exact hends.imp_right fun hrefuses => ⟨hrefuses.exitCode, Report.shown_output hrefuses.output color⟩
      · cases hparse.symm.trans hother
        exact htree
  · rw [Verb.run_of_error (by decide) hstop]
    exact ⟨.inr ⟨by rw [Report.shown_exitCode, hrefuses.exitCode], Report.shown_output hrefuses.output color⟩,
      iff_of_true (hrefuses.orderly.shown color) fun tree hparse => absurd hparse (hnone tree)⟩

/-- An evaluation ends with the exit code 0 or 1.  An error escapes it exactly if its outcome cannot be printed. -/
theorem runCommand_eval :
    ∃ report, runCommand system directory color ["eval", "--", source] = .finished report ∧
      (report.exitCode = 0 ∨ report.exitCode = 1) ∧
      (report.Orderly ↔ ∀ tree, (parser true).parse source = .ok tree → ¬ (tree.run .empty).Unprintable) := by
  refine ⟨_, runCommand_expression unset rfl (by simp [isOption]) color source, ?_⟩
  rw [Report.shown_exitCode]
  rcases parseAndReport_strict source with ⟨tree, hparse, hgo⟩ | ⟨hnone, report, hstop, hrefuses⟩
  · rw [Verb.run_eval_of_ok hgo]
    rcases evalTree_cases tree with ⟨houtcome, hfails, error, -, hescaped⟩ | ⟨houtcome, horderly⟩
    · rw [← Report.shown_escaped? _ color] at hescaped
      exact ⟨.inr hfails, iff_of_false (Report.not_orderly_of_escaped hescaped) fun h => h tree hparse houtcome⟩
    · refine ⟨horderly.2.imp_right And.left, iff_of_true (horderly.shown color) fun other hother => ?_⟩
      cases hparse.symm.trans hother
      exact houtcome
  · rw [Verb.run_of_error (by decide) hstop]
    exact ⟨.inr hrefuses.exitCode,
      iff_of_true (hrefuses.orderly.shown color) fun tree hparse => absurd hparse (hnone tree)⟩

/-- Without settings, both commands end with the exit code 0 or 1 whatever the expression is, and a compilation that
fails has no output.  They announce each error, with two exceptions.  An error escapes from `compile` if a number in
the tree has too many digits.  An error escapes from `eval` if a number that is read or printed has too many digits, or
if a node that is to blame is too deep to be shown. -/
theorem runCommand_reports :
    (∃ report, runCommand system directory color ["compile", "--", source] = .finished report ∧
        (report.exitCode = 0 ∨ report.exitCode = 1 ∧ report.output = "") ∧
        (report.Orderly ↔ ∀ tree, (parser true).parse source = .ok tree →
          ∀ digits, Script.ofTree tree ≠ .error (.literalTooLong digits))) ∧
      ∃ report, runCommand system directory color ["eval", "--", source] = .finished report ∧
        (report.exitCode = 0 ∨ report.exitCode = 1) ∧
        (report.Orderly ↔ ∀ tree, (parser true).parse source = .ok tree → ¬ (tree.run .empty).Unprintable) :=
  ⟨runCommand_compile unset color source, runCommand_eval unset color source⟩

end

theorem findSettings?_empty : (⟨[], []⟩ : FileSystem).findSettings? [] = none := by
  unfold FileSystem.findSettings? FileSystem.searchUp
  decide

theorem runCommand_reports_empty :
    (⟨[], []⟩ : FileSystem).findSettings? [] = none ∧
      (∃ report, runCommand ⟨[], []⟩ [] false ["compile", "--", "1/0"] = .finished report ∧
        (report.exitCode = 0 ∨ report.exitCode = 1 ∧ report.output = "") ∧
        (report.Orderly ↔ ∀ tree, (parser true).parse "1/0" = .ok tree →
          ∀ digits, Script.ofTree tree ≠ .error (.literalTooLong digits))) ∧
      ∃ report, runCommand ⟨[], []⟩ [] false ["eval", "--", "1/0"] = .finished report ∧
        (report.exitCode = 0 ∨ report.exitCode = 1) ∧
        (report.Orderly ↔ ∀ tree, (parser true).parse "1/0" = .ok tree → ¬ (tree.run .empty).Unprintable) :=
  ⟨findSettings?_empty, runCommand_reports findSettings?_empty false "1/0"⟩

/-! ### Numbers with too many digits -/

section

variable [Runtime] {digits : List Char} (h : isNumeral digits)
include h

/-- The text of a number is read as the number if anything can be read at all. -/
theorem parse_numeral (hdepth : 1 ≤ Runtime.expressionDepth) :
    (parser true).parse (String.ofList digits) = .ok (.atom (String.ofList digits)) := by
  have hrenders : Arithmetic.Renders [⟨.number, String.ofList digits⟩] (String.ofList digits).toList := by
    have hnumber := Arithmetic.Renders.lexeme (.number h) (by simp) (Arithmetic.Renders.nil (List.forall_mem_nil _))
    simpa using hnumber
  have hrun : Parse.wholeExpression Parse.depthLimit (.initial [⟨.number, String.ofList digits⟩]) =
      .ok (.atom (String.ofList digits)) ⟨[.endOfInput], 1, []⟩ := by
    obtain ⟨depth, hdepth⟩ := Nat.exists_eq_add_of_le' hdepth
    rw [Parse.depthLimit, hdepth]
    rfl
  exact Arithmetic.parse_of_wholeExpression true hrenders (List.cons_ne_nil _ _) hrun rfl

variable (hlong : digitLimit < digits.length)
include hlong

omit [Runtime] in
/-- A number with too many digits is not compiled. -/
theorem ofTree_numeral :
    Script.ofTree (.atom (String.ofList digits)) = .error (.literalTooLong digits.length) := by
  have hatom : Script.atomText (String.ofList digits) = .error (.literalTooLong digits.length) := by
    simp only [Script.atomText, String.toList_ofList, isIntegerChars_of_isNumeral h, literalDigits_of_isNumeral h,
      Nat.not_le.mpr hlong, if_true, if_false]
  have hstatement : Script.statement (.atom (String.ofList digits)) = .error (.literalTooLong digits.length) := by
    simp only [Script.statement_form, Tree.form, Script.expression_eq_emit, Script.emit_form, hatom]
  rw [Script.ofTree, Tree.statements_of_no_sequence rfl, List.mapM_cons, hstatement]
  rfl

/-- A number with too many digits has no value. -/
theorem run_numeral (memory : Memory) :
    (Tree.atom (String.ofList digits)).run memory = (.error (.literalTooLong digits.length), memory) := by
  have hlookup : memory.lookup (String.ofList digits) = .error (.literalTooLong digits.length) := by
    simp only [Memory.lookup, String.toList_ofList, isIntegerChars_of_isNumeral h, literalDigits_of_isNumeral h,
      Nat.not_le.mpr hlong, if_true, if_false]
  have hvalue : (Tree.atom (String.ofList digits)).value memory = (.error (.literalTooLong digits.length), memory) := by
    rw [Tree.value_eq_reported, bigStep_form]
    simp only [Tree.form, hlookup]
    rfl
  rw [Tree.run, Tree.statements_of_no_sequence rfl, Tree.runStatements, hvalue]

theorem unprintable_numeral : ((Tree.atom (String.ofList digits)).run .empty).Unprintable := by
  rw [run_numeral h hlong]
  exact .inr (.inr ⟨_, rfl, .inl ⟨_, rfl⟩⟩)

/-- An error escapes both commands on a number with too many digits. -/
theorem numeral_escapes (hdepth : 1 ≤ Runtime.expressionDepth) {system : FileSystem} {directory : Path}
    (unset : system.findSettings? directory = none) (color : Bool) :
    (∃ report, runCommand system directory color ["compile", "--", String.ofList digits] = .finished report ∧
        ¬ report.Orderly) ∧
      ∃ report, runCommand system directory color ["eval", "--", String.ofList digits] = .finished report ∧
        ¬ report.Orderly := by
  have hparse := parse_numeral h hdepth
  constructor
  · obtain ⟨report, hreport, -, horderly⟩ := runCommand_compile unset color (String.ofList digits)
    exact ⟨report, hreport, fun hreport => horderly.mp hreport _ hparse _ (ofTree_numeral h hlong)⟩
  · obtain ⟨report, hreport, -, horderly⟩ := runCommand_eval unset color (String.ofList digits)
    exact ⟨report, hreport, fun hreport => horderly.mp hreport _ hparse (unprintable_numeral h hlong)⟩

end

theorem isNumeral_replicate (count : Nat) : isNumeral (List.replicate (count + 1) '1') := by
  have hdigit : Text.isDigit '1' := by decide
  simp [isNumeral, hdigit]

/-- A number with one digit more than can be read. -/
def longNumeral : String := String.ofList (List.replicate (4300 + 1) '1')

theorem runCommand_longNumeral :
    (⟨[], []⟩ : FileSystem).findSettings? [] = none ∧
      (∃ report, runCommand ⟨[], []⟩ [] false ["compile", "--", longNumeral] = .finished report ∧ ¬ report.Orderly) ∧
      ∃ report, runCommand ⟨[], []⟩ [] false ["eval", "--", longNumeral] = .finished report ∧ ¬ report.Orderly := by
  have hlong : digitLimit < (List.replicate (4300 + 1) '1').length := by
    rw [List.length_replicate]
    decide
  exact ⟨findSettings?_empty,
    numeral_escapes (isNumeral_replicate 4300) hlong (by decide) findSettings?_empty false⟩

end Precedence
