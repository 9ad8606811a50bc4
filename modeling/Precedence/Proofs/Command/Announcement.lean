import Precedence.Command
import Precedence.Proofs.Arithmetic.Steps

/-!
# Reports that are announced

A text announces an error if what a reader sees of it begins with `error: ` or with `error[` and a code (`Announces`).
The message of a failed command does, and so does a list of problems of an expression, in color or not
(`announces_failWith`, `announces_addDiagnostics`).  To take the escape sequences out of such a text leaves the
announcement (`Announces.plain`).
-/

namespace Precedence

/-! ### Escape sequences -/

theorem withoutEscapes_cons {c : Char} (h : c ≠ '\x1b') (text : List Char) :
    withoutEscapes (c :: text) = c :: withoutEscapes text := by
  rw [withoutEscapes, if_neg h]

theorem withoutEscapes_append {chars : List Char} (h : '\x1b' ∉ chars) (text : List Char) :
    withoutEscapes (chars ++ text) = chars ++ withoutEscapes text := by
  induction chars with
  | nil => rfl
  | cons c chars ih =>
    rw [List.mem_cons, not_or] at h
    rw [List.cons_append, withoutEscapes_cons (Ne.symm h.1), ih h.2, List.cons_append]

theorem withoutEscapes_of_behindEscape? {text rest : List Char} (h : behindEscape? text = some rest) :
    withoutEscapes ('\x1b' :: text) = withoutEscapes rest := by
  rw [withoutEscapes, if_pos rfl]
  split
  · next other hother => rw [Option.some.inj (hother.symm.trans h)]
  · next hnone => cases hnone.symm.trans h

/-- A style leaves nothing behind, whether it is there or not. -/
theorem withoutEscapes_style {style : String} (h : style ∈ [Severity.error.color, boldStyle, plainStyle]) (color : Bool)
    (text : List Char) : withoutEscapes ((if color then style else "").toList ++ text) = withoutEscapes text := by
  simp only [List.mem_cons, List.not_mem_nil, or_false] at h
  cases color with
  | false => rfl
  | true =>
    rcases h with rfl | rfl | rfl
    · exact withoutEscapes_of_behindEscape? rfl
    · exact withoutEscapes_of_behindEscape? rfl
    · exact withoutEscapes_of_behindEscape? rfl

/-! ### Announcements -/

/-- What the report of an error begins with. -/
def headings : List String := "error: " :: Arithmetic.codes.map fun code => "error[" ++ code ++ "]: "

/-- What is seen of the text begins with the report of an error. -/
def Announces (text : String) : Prop := ∃ heading ∈ headings, heading.toList <+: withoutEscapes text.toList

theorem withoutEscapes_heading {heading : String} (h : heading ∈ headings) (text : List Char) :
    withoutEscapes (heading.toList ++ text) = heading.toList ++ withoutEscapes text := by
  have hall : ∀ heading ∈ headings, '\x1b' ∉ heading.toList := by decide
  exact withoutEscapes_append (hall heading h) text

theorem announces_of_heading {heading : String} (h : heading ∈ headings) (text : String) :
    Announces (heading ++ text) := by
  refine ⟨heading, h, ?_⟩
  rw [String.toList_append, withoutEscapes_heading h]
  exact List.prefix_append _ _

/-- An announcement stays when the escape sequences are taken out of the text. -/
theorem Announces.plain {text : String} (h : Announces text) :
    Announces (String.ofList (withoutEscapes text.toList)) := by
  obtain ⟨heading, hmem, rest, hseen⟩ := h
  refine ⟨heading, hmem, ?_⟩
  rw [String.toList_ofList, ← hseen, withoutEscapes_heading hmem]
  exact List.prefix_append _ _

/-- The heading of a problem begins its text, which goes on in one way or another. -/
theorem exists_render_append (d : Diagnostic) (color : Bool) (rest : String) :
    let style (sequence : String) := if color then sequence else ""
    ∃ more, d.render color ++ rest =
      style d.severity.color ++ d.severity.name ++ "[" ++ d.code ++ "]" ++ style plainStyle ++ style boldStyle ++ ": "
        ++ more := by
  intro style
  obtain ⟨notes, hnotes⟩ : ∃ notes, d.render color =
      style d.severity.color ++ d.severity.name ++ "[" ++ d.code ++ "]" ++ style plainStyle ++ style boldStyle ++ ": "
        ++ d.message ++ style plainStyle ++ notes := by
    unfold Diagnostic.render
    cases d.notes with
    | nil => exact ⟨"", by simp [style]⟩
    | cons note notes => exact ⟨_, by simp only [List.map_cons, String.intercalate_cons_cons, String.append_assoc]; rfl⟩
  exact ⟨d.message ++ style plainStyle ++ notes ++ rest, by rw [hnotes]; simp only [String.append_assoc]⟩

theorem announces_render {d : Diagnostic} (hseverity : d.severity = .error) (hcode : d.code ∈ Arithmetic.codes)
    (color : Bool) (rest : String) : Announces (d.render color ++ rest) := by
  have hheading : "error[" ++ d.code ++ "]: " ∈ headings :=
    List.mem_cons_of_mem _ (List.mem_map.mpr ⟨d.code, hcode, rfl⟩)
  have hcodes : ∀ code ∈ Arithmetic.codes, '\x1b' ∉ code.toList := by decide
  have hname : Severity.error.name.toList ++ "[".toList = "error[".toList := rfl
  have hclose : "]".toList ++ ": ".toList = "]: ".toList := rfl
  obtain ⟨more, hmore⟩ := exists_render_append d color rest
  refine ⟨_, hheading, withoutEscapes more.toList, ?_⟩
  rw [hmore, hseverity]
  simp only [String.toList_append, List.append_assoc]
  rw [withoutEscapes_style (by simp), ← List.append_assoc Severity.error.name.toList, hname,
    withoutEscapes_append (by decide), withoutEscapes_append (hcodes _ hcode), withoutEscapes_append (by decide),
    withoutEscapes_style (by simp), withoutEscapes_style (by simp), withoutEscapes_append (by decide),
    ← List.append_assoc "]".toList, hclose]

/-! ### Reports -/

namespace Report

theorem announces_failWith (message : String) : Announces (({} : Report).failWith message).errors := by
  have hheading : "error: " ∈ headings := by decide
  have h := announces_of_heading hheading (message ++ "\n")
  simpa only [failWith, fail, addError, String.empty_append, String.append_assoc] using h

/-- To report problems only adds to the errors. -/
theorem exists_addDiagnostics (report : Report) (color : Bool) (diagnostics : List Diagnostic) :
    ∃ more, report.addDiagnostics color diagnostics = { report with errors := report.errors ++ more } := by
  unfold addDiagnostics
  induction diagnostics generalizing report with
  | nil => exact ⟨"", by simp⟩
  | cons d diagnostics ih =>
    obtain ⟨more, hmore⟩ := ih (report.addError (d.render color))
    refine ⟨d.render color ++ "\n" ++ more, ?_⟩
    rw [List.foldl_cons, hmore]
    simp only [addError, String.append_assoc]

/-- Where there are problems, the first one is announced. -/
theorem announces_addDiagnostics (color : Bool) {d : Diagnostic} (diagnostics : List Diagnostic)
    (hseverity : d.severity = .error) (hcode : d.code ∈ Arithmetic.codes) :
    Announces (({} : Report).addDiagnostics color (d :: diagnostics)).errors := by
  obtain ⟨more, hmore⟩ := exists_addDiagnostics (({} : Report).addError (d.render color)) color diagnostics
  have hadd : ({} : Report).addDiagnostics color (d :: diagnostics) =
      (({} : Report).addError (d.render color)).addDiagnostics color diagnostics := rfl
  rw [hadd, hmore]
  have h := announces_render hseverity hcode color ("\n" ++ more)
  simpa only [addError, String.empty_append, String.append_assoc] using h

end Report

end Precedence
