import Precedence.Proofs.Arithmetic.Rendering
import Precedence.Proofs.Lexing.Pieces

/-!
# Coloring

A colored text is the normalized source with style sequences around the lines of its pieces.  Without these it is the
normalized source again (`colored_withoutStyles`): the pieces make up the text (`flatMap_text_of_piecesFrom`), the lines
of a piece make up the piece (`flatten_lines`), and what is written around a line is nothing but style sequences
(`withoutStyles_styledLine`).  This needs a source without escape characters, where nothing else can be taken for the
beginning of a sequence.
-/

namespace Precedence

/-! ### Style sequences -/

/-- Whether the character may be part of the code of a style. -/
def isStyleCode (c : Char) : Bool := c.isDigit || c = ';'

/-- The text behind a style sequence, given the text behind its escape character: an open bracket, the code of a style,
and the letter `m`. -/
def behindStyle? : List Char → Option (List Char)
  | [] => none
  | c :: text =>
    if c = '[' then
      match text.dropWhile isStyleCode with
      | [] => none
      | final :: rest => if final = 'm' then some rest else none
    else none

theorem exists_code_of_behindStyle? {text rest : List Char} (h : behindStyle? text = some rest) :
    ∃ code, (∀ c ∈ code, isStyleCode c) ∧ text = '[' :: (code ++ 'm' :: rest) := by
  unfold behindStyle? at h
  split at h
  · cases h
  · next c text =>
    split at h
    · next hopen =>
      split at h
      · cases h
      · next final behind hdrop =>
        split at h
        · next hfinal =>
          cases h
          refine ⟨text.takeWhile isStyleCode, fun c hc => List.all_eq_true.mp List.all_takeWhile c hc, ?_⟩
          rw [hopen, ← hfinal, ← hdrop, List.takeWhile_append_dropWhile]
        · cases h
    · cases h

/-- The text without style sequences. -/
def withoutStyles : List Char → List Char
  | [] => []
  | c :: text =>
    if c = '\x1b' then
      match _h : behindStyle? text with
      | some rest => withoutStyles rest
      | none => c :: withoutStyles text
    else c :: withoutStyles text
termination_by text => text.length
decreasing_by
  · obtain ⟨code, -, rfl⟩ := exists_code_of_behindStyle? _h
    simp; omega
  · simp
  · simp

theorem withoutStyles_append {chars : List Char} (h : '\x1b' ∉ chars) (rest : List Char) :
    withoutStyles (chars ++ rest) = chars ++ withoutStyles rest := by
  induction chars with
  | nil => rfl
  | cons c chars ih =>
    rw [List.mem_cons, not_or] at h
    rw [List.cons_append, withoutStyles, if_neg (Ne.symm h.1), ih h.2, List.cons_append]

/-- What stands in front of any text without being seen there. -/
def Unseen (chars : List Char) : Prop := ∀ rest, withoutStyles (chars ++ rest) = withoutStyles rest

theorem Unseen.append {chars more : List Char} (h : Unseen chars) (hmore : Unseen more) : Unseen (chars ++ more) := by
  intro rest
  rw [List.append_assoc, h, hmore]

theorem unseen_styleSequence {code : String} (h : code.toList.all isStyleCode) :
    Unseen (styleSequence code).toList := by
  intro rest
  have hchars : (styleSequence code).toList ++ rest = '\x1b' :: '[' :: (code.toList ++ 'm' :: rest) := by
    simp [styleSequence]
  have hend : (code.toList ++ 'm' :: rest).dropWhile isStyleCode = 'm' :: rest := by
    rw [List.dropWhile_append_of_pos (List.all_eq_true.mp h)]
    rfl
  have hbehind : behindStyle? ('[' :: (code.toList ++ 'm' :: rest)) = some rest := by
    simp [behindStyle?, hend]
  rw [hchars, withoutStyles, if_pos rfl]
  split
  · next other hother => rw [Option.some.inj (hother.symm.trans hbehind)]
  · next hnone => cases hnone.symm.trans hbehind

/-- The codes that styles are made of. -/
def styleCodes : List String := ["01", "04", "31", "32", "33", "34", "35", "36", "37", "90", "91", "94"]

/-- A style is one style sequence or two of them. -/
theorem unseen_of_style? {scope : Scope} {style : String} (h : scope.style? = some style) : Unseen style.toList := by
  have hcodes : ∀ code ∈ styleCodes, code.toList.all isStyleCode := by decide
  have hstyles : ∀ entry ∈ scopeStyles, ∃ code ∈ styleCodes, entry.2 = styleSequence code ∨
      ∃ first ∈ styleCodes, entry.2 = styleSequence first ++ styleSequence code := by decide
  obtain ⟨n, -, hlookup⟩ := List.exists_of_findSome?_eq_some h
  obtain ⟨earlier, later, hentry, -⟩ := List.lookup_eq_some_iff.mp hlookup
  have hmem : (scope.path.take n, style) ∈ scopeStyles := by simp [hentry]
  obtain ⟨code, hcode, rfl | ⟨first, hfirst, rfl⟩⟩ := hstyles _ hmem
  · exact unseen_styleSequence (hcodes code hcode)
  · rw [String.toList_append]
    exact (unseen_styleSequence (hcodes first hfirst)).append (unseen_styleSequence (hcodes code hcode))

theorem unseen_endOfStyle : Unseen endOfStyle.toList := unseen_styleSequence (by decide)

/-! ### Lines -/

theorem flatten_linesFrom (read text : List Char) : (linesFrom read text).flatten = read.reverse ++ text := by
  fun_induction linesFrom read text with
  | case1 read hread => simp [List.isEmpty_iff.mp hread]
  | case2 read hread => simp
  | case3 read => simp
  | case4 read rest ih => simp [ih]
  | case5 read next rest hnext ih => simp [ih]
  | case6 read c text hreturn hbreak ih => simp [ih]
  | case7 read c text hreturn hbreak ih => simp [ih]

/-- The lines of a text make up the text. -/
theorem flatten_lines (text : List Char) : (lines text).flatten = text := flatten_linesFrom [] text

/-- Of a styled line nothing but the line is seen. -/
theorem withoutStyles_styledLine {style : String} (hstyle : Unseen style.toList) {line : List Char}
    (hline : '\x1b' ∉ line) (rest : List Char) :
    withoutStyles (styledLine style line ++ rest) = line ++ withoutStyles rest := by
  by_cases hended : line.getLast? = some '\n'
  · obtain ⟨shown, rfl⟩ := List.getLast?_eq_some_iff.mp hended
    have hshown : '\x1b' ∉ shown := fun hmem => hline (List.mem_append_left _ hmem)
    simp only [styledLine, hended, if_true, List.dropLast_concat, List.append_assoc]
    rw [hstyle, withoutStyles_append hshown, unseen_endOfStyle, withoutStyles_append (by decide)]
  · simp only [styledLine, hended, if_false, List.append_nil, List.append_assoc]
    rw [hstyle, withoutStyles_append hline, unseen_endOfStyle]

/-- Of lines in a style nothing but the lines is seen. -/
theorem withoutStyles_styledLines {style : String} (hstyle : Unseen style.toList) {lines : List (List Char)}
    (hlines : '\x1b' ∉ lines.flatten) (rest : List Char) :
    withoutStyles (lines.flatMap (styledLine style) ++ rest) = lines.flatten ++ withoutStyles rest := by
  induction lines with
  | nil => rfl
  | cons line lines ih =>
    rw [List.flatten_cons, List.mem_append, not_or] at hlines
    rw [List.flatMap_cons, List.append_assoc, withoutStyles_styledLine hstyle hlines.1, ih hlines.2,
      List.flatten_cons, List.append_assoc]

theorem withoutStyles_styledText (scope : Scope) {text : List Char} (htext : '\x1b' ∉ text) (rest : List Char) :
    withoutStyles (styledText scope text ++ rest) = text ++ withoutStyles rest := by
  unfold styledText
  cases hstyle : scope.style? with
  | none => exact withoutStyles_append htext rest
  | some style =>
    have hlines : '\x1b' ∉ (lines text).flatten := by rwa [flatten_lines]
    have hstyled := withoutStyles_styledLines (unseen_of_style? hstyle) hlines rest
    rwa [flatten_lines] at hstyled

/-- Of styled pieces nothing but their texts is seen. -/
theorem withoutStyles_styledPieces {pieces : List Piece} (hpieces : '\x1b' ∉ pieces.flatMap Piece.text) :
    withoutStyles (pieces.flatMap fun piece => styledText piece.scope piece.text) = pieces.flatMap Piece.text := by
  induction pieces with
  | nil => rw [List.flatMap_nil, List.flatMap_nil, withoutStyles]
  | cons piece pieces ih =>
    rw [List.flatMap_cons, List.mem_append, not_or] at hpieces
    rw [List.flatMap_cons, withoutStyles_styledText piece.scope hpieces.1, ih hpieces.2, List.flatMap_cons]

/-! ### Line ends -/

/-- The text without a byte order mark at its start. -/
def withoutMark : List Char → List Char
  | [] => []
  | c :: rest => if c = '\uFEFF' then rest else c :: rest

/-- The text with a newline for every carriage return and newline. -/
def joinedLineEnds : List Char → List Char
  | [] => []
  | c :: text => if c = '\r' ∧ text.head? = some '\n' then joinedLineEnds text else c :: joinedLineEnds text

/-- The text with a newline for every carriage return. -/
def newlinesForReturns (text : List Char) : List Char := text.map fun c => if c = '\r' then '\n' else c

theorem unifyNewlines_eq (text : List Char) : unifyNewlines text = newlinesForReturns (joinedLineEnds text) := by
  unfold newlinesForReturns
  fun_induction unifyNewlines text with
  | case1 => rfl
  | case2 => simp [joinedLineEnds]
  | case3 rest ih => simp [joinedLineEnds, ih]
  | case4 next rest hnext ih => simp [joinedLineEnds, hnext, ih]
  | case5 c text hreturn ih => simp [joinedLineEnds, hreturn, ih]

/-- A text is normalized in three steps. -/
theorem normalized_eq (text : List Char) :
    normalized text = newlinesForReturns (joinedLineEnds (withoutMark text)) := by
  have hmark : ∀ c : Char, c.toNat = 0xFEFF ↔ c = '\uFEFF' := fun c => Char.toNat_inj (d := '\uFEFF')
  show unifyNewlines _ = _
  rw [unifyNewlines_eq]
  cases text with
  | nil => rfl
  | cons c rest => simp only [withoutMark, hmark]

theorem joinedLineEnds_sublist (text : List Char) : (joinedLineEnds text).Sublist text := by
  induction text with
  | nil => exact .slnil
  | cons c text ih =>
    unfold joinedLineEnds
    split
    · exact ih.cons c
    · exact ih.cons_cons c

theorem withoutMark_sublist (text : List Char) : (withoutMark text).Sublist text := by
  cases text with
  | nil => exact .slnil
  | cons c rest =>
    show (if c = '\uFEFF' then rest else c :: rest).Sublist (c :: rest)
    split
    · exact List.sublist_cons_self c rest
    · exact .refl _

/-- Only newlines are added to a text that is normalized. -/
theorem mem_of_mem_normalized {text : List Char} {c : Char} (h : c ∈ normalized text) : c ∈ text ∨ c = '\n' := by
  rw [normalized_eq] at h
  obtain ⟨d, hd, rfl⟩ := List.mem_map.mp h
  split
  · exact .inr rfl
  · exact .inl ((withoutMark_sublist text).subset ((joinedLineEnds_sublist _).subset hd))

/-! ### Line breaks -/

theorem not_isLineBreak_of_isStyleCode {c : Char} (h : isStyleCode c) : ¬ isLineBreak c := by
  have hcode : 48 ≤ c.toNat ∧ c.toNat ≤ 59 := by
    simp only [isStyleCode, Bool.or_eq_true, decide_eq_true_eq] at h
    rcases h with hdigit | rfl
    · have hrange : 48 ≤ c.toNat ∧ c.toNat ≤ 57 := Char.isDigit_iff_toNat.mp hdigit
      omega
    · decide
  simp only [isLineBreak, List.contains_eq_mem, decide_eq_true_eq, List.mem_cons, List.not_mem_nil, or_false]
  omega

/-- Style sequences hold no line breaks. -/
theorem filter_withoutStyles (text : List Char) :
    (withoutStyles text).filter isLineBreak = text.filter isLineBreak := by
  fun_induction withoutStyles text with
  | case1 => rfl
  | case2 text rest hbehind ih =>
    obtain ⟨code, hcode, rfl⟩ := exists_code_of_behindStyle? hbehind
    have hnone : code.filter isLineBreak = [] :=
      List.filter_eq_nil_iff.mpr fun c hc => not_isLineBreak_of_isStyleCode (hcode c hc)
    have hfirst : ¬ isLineBreak '\x1b' ∧ ¬ isLineBreak '[' ∧ ¬ isLineBreak 'm' := by decide
    simp [ih, hnone, hfirst]
  | case3 text hbehind ih => simp only [List.filter_cons, ih]
  | case4 c text hescape ih => simp only [List.filter_cons, ih]

/-! ### Colored texts -/

theorem colored_eq_error_iff {rules : List Rule} {source : String} {error : MatchError} :
    colored rules source = .error error ↔ lex rules (String.ofList (normalized source.toList)) = .error error := by
  have hpieces : colored rules source = .error error ↔ normalizedPieces rules source = .error error := by
    unfold colored
    cases normalizedPieces rules source <;> simp
  rw [hpieces, lex_eq_error_iff, String.toList_ofList]
  exact piecesFrom_eq_error_iff

theorem exists_pieces_of_colored {rules : List Rule} {source text : String} (h : colored rules source = .ok text) :
    ∃ pieces, normalizedPieces rules source = .ok pieces ∧
      text.toList = pieces.flatMap fun piece => styledText piece.scope piece.text := by
  unfold colored at h
  cases hpieces : normalizedPieces rules source with
  | error error =>
    rw [hpieces] at h
    cases h
  | ok pieces =>
    rw [hpieces] at h
    cases h
    exact ⟨pieces, rfl, String.toList_ofList⟩

/-- To color a source fails exactly where cutting the normalized source into tokens does, and with the same error.  If
there are no escape characters in the source, a colored source without its style sequences is the source without a byte
order mark at its start, with a newline for every carriage return and newline, and then for every carriage return.  No
line break is added to it or taken away. -/
theorem colored_withoutStyles (rules : List Rule) {source : String} (h : '\x1b' ∉ source.toList) :
    (∀ error, colored rules source = .error error ↔
      lex rules (String.ofList (normalized source.toList)) = .error error) ∧
    ∀ text, colored rules source = .ok text →
      withoutStyles text.toList = newlinesForReturns (joinedLineEnds (withoutMark source.toList)) ∧
      text.toList.filter isLineBreak =
        (newlinesForReturns (joinedLineEnds (withoutMark source.toList))).filter isLineBreak := by
  refine ⟨fun error => colored_eq_error_iff, fun text htext => ?_⟩
  obtain ⟨pieces, hpieces, hstyled⟩ := exists_pieces_of_colored htext
  have htexts : pieces.flatMap Piece.text = normalized source.toList := flatMap_text_of_piecesFrom hpieces
  have hplain : '\x1b' ∉ pieces.flatMap Piece.text := by
    rw [htexts]
    intro hmem
    rcases mem_of_mem_normalized hmem with hsource | hnewline
    · exact h hsource
    · cases hnewline
  have hseen := withoutStyles_styledPieces hplain
  rw [← hstyled, htexts] at hseen
  rw [← normalized_eq, ← hseen, filter_withoutStyles]
  exact ⟨rfl, rfl⟩

/-- No rule of arithmetic matches at an exclamation mark. -/
theorem piecesFrom_exclamation (position : Nat) :
    piecesFrom Arithmetic.rules position ['!'] = .ok [⟨position, .error, ['!']⟩] := by
  have hunmatched : Unmatched Arithmetic.rules ['!'] := by
    have hlengths : ∀ entry ∈ Arithmetic.lexicon, entry.lexical.length (Pattern.begun ['!']) = 0 := by decide
    rw [Arithmetic.rules_eq]
    refine List.forall_mem_map.mpr fun entry hentry => ?_
    rw [entry.match?_rule, if_pos (hlengths entry hentry)]
  exact piecesFrom_of_unmatched fun _ => hunmatched

/-- The number and the line end are what the rule for numbers matches, and the exclamation mark is in error. -/
theorem piecesFrom_sevenAndExclamation : piecesFrom Arithmetic.rules 0 ['7', '\n', '!'] =
    .ok [⟨0, .integer, ['7']⟩, ⟨1, .text, ['\n']⟩, ⟨2, .error, ['!']⟩] := by
  let entry := Arithmetic.numberEntry
  let chunk : Chunk := ⟨entry.rule, entry.lexical.found ['7', '\n', '!'], ['7', '\n', '!']⟩
  have hmatch : entry.rule.pattern.match? ['7', '\n', '!'] = some chunk.found := by
    rw [entry.match?_rule, if_neg (by decide)]
  have hfirst : chunk.IsFirst Arithmetic.rules :=
    ⟨⟨[], _, Arithmetic.rules_eq, List.forall_mem_nil _, hmatch⟩, rfl, by decide⟩
  have hrest : piecesFrom Arithmetic.rules 0 chunk.remaining = _ := hfirst.piecesFrom_eq
  rw [show chunk.rest = ['!'] from rfl, piecesFrom_exclamation] at hrest
  exact hrest

theorem colored_withoutStyles_sevenAndExclamation : '\x1b' ∉ "7\r\n!".toList ∧
    colored Arithmetic.rules "7\r\n!" = .ok "\x1b[34m7\x1b[39;49;00m\n\x1b[04m\x1b[91m!\x1b[39;49;00m" ∧
    withoutStyles "\x1b[34m7\x1b[39;49;00m\n\x1b[04m\x1b[91m!\x1b[39;49;00m".toList = "7\n!".toList := by
  have hplain : '\x1b' ∉ "7\r\n!".toList := by decide
  have hcolored : colored Arithmetic.rules "7\r\n!" =
      .ok "\x1b[34m7\x1b[39;49;00m\n\x1b[04m\x1b[91m!\x1b[39;49;00m" := by
    have hpieces : normalizedPieces Arithmetic.rules "7\r\n!" = .ok _ := piecesFrom_sevenAndExclamation
    rw [colored, hpieces]
    rfl
  exact ⟨hplain, hcolored, ((colored_withoutStyles Arithmetic.rules hplain).2 _ hcolored).1⟩

end Precedence
