import Precedence.Highlight
import Precedence.Proofs.Number.Decimal
import Precedence.Proofs.Script.Emission

/-!
# The language of scripts

The grammar of the statements of a script (`Derives`): sums, terms, negations, numbers, names, groups, named expressions
and calls.  Whatever the atoms of a tree are, its script has a statement of this language on each line, or there is no
script (`ofTree_language`).

The precedence that is required of an operand says from which nonterminal its text is to be derived (`Fits`), and the
text of every tree is derived from it (`emit_fits`).  A negative number is the one exception: its text is a negation,
but it counts as a primary, so that a callee may begin with a minus sign.
-/

namespace Precedence.Script

/-- The nonterminals of the language of scripts. -/
inductive Nonterminal where
  | statement
  | sum
  | term
  | unary
  | primary

/-- The grammar of scripts. -/
inductive Derives : Nonterminal → String → Prop
  | assignment {name value : String} (isName : isName name) (right : Derives .sum value) :
      Derives .statement (name ++ " = " ++ value)
  | expression {text : String} (sum : Derives .sum text) : Derives .statement text
  | addition {op : Operator} {left right : String} (additive : op = .add ∨ op = .sub) (first : Derives .sum left)
      (second : Derives .term right) : Derives .sum (left ++ " " ++ op.symbol ++ " " ++ right)
  | term {text : String} (term : Derives .term text) : Derives .sum text
  | multiplication {op : Operator} {left right : String} (multiplicative : op = .mul ∨ op = .div)
      (first : Derives .term left) (second : Derives .unary right) :
      Derives .term (left ++ " " ++ op.symbol ++ " " ++ right)
  | unary {text : String} (unary : Derives .unary text) : Derives .term text
  | negation {text : String} (operand : Derives .unary text) : Derives .unary ("-" ++ text)
  | primary {text : String} (primary : Derives .primary text) : Derives .unary text
  | number (n : Nat) : Derives .primary (toString n)
  | name {text : String} (isName : isName text) : Derives .primary text
  | group {text : String} (inner : Derives .sum text) : Derives .primary ("(" ++ text ++ ")")
  | named {name value : String} (isName : isName name) (right : Derives .sum value) :
      Derives .primary ("(" ++ name ++ " := " ++ value ++ ")")
  | call {callee argument : String} (function : Derives .primary callee) (operand : Derives .sum argument) :
      Derives .primary (callee ++ "(" ++ argument ++ ")")

/-! ### Lines -/

/-- No character of the text ends a line. -/
def OneLine (text : String) : Prop := ∀ c ∈ text.toList, ¬ isLineBreak c

theorem OneLine.append {s t : String} (hs : OneLine s) (ht : OneLine t) : OneLine (s ++ t) := by
  intro c hc
  rw [String.toList_append, List.mem_append] at hc
  exact hc.elim (hs c) (ht c)

private theorem not_isLineBreak_of_isDigit {c : Char} (h : c.isDigit) : ¬ isLineBreak c := by
  simp only [Char.isDigit, ge_iff_le, Bool.and_eq_true, decide_eq_true_eq, UInt32.le_iff_toNat_le] at h
  have hlo : 0x30 ≤ c.toNat := h.1
  have hhi : c.toNat ≤ 0x39 := h.2
  simp only [isLineBreak, List.contains_eq_mem, decide_eq_true_eq, List.mem_cons, List.not_mem_nil, or_false]
  omega

theorem oneLine_toString (n : Nat) : OneLine (toString n) := by
  intro c hc
  rw [Nat.toString_eq_repr, Nat.toList_repr] at hc
  exact not_isLineBreak_of_isDigit (Nat.isDigit_of_mem_toDigits (by decide) (by decide) hc)

/-- What is true of no line break is true of no character that ends a line. -/
private theorem not_isLineBreak_of_contains {ranges : Text.Ranges}
    (h : [0x0A, 0x0B, 0x0C, 0x0D, 0x1C, 0x1D, 0x1E, 0x85, 0x2028, 0x2029].all (!ranges.contains ·)) {c : Char}
    (hc : ranges.contains c.toNat) : ¬ isLineBreak c := by
  intro hbreak
  simp only [isLineBreak, List.contains_eq_mem, decide_eq_true_eq] at hbreak
  have := List.all_eq_true.mp h _ hbreak
  simp [hc] at this

theorem oneLine_of_isName {text : String} (h : isName text) : OneLine text := by
  simp only [isName, Bool.and_eq_true] at h
  have hidentifier := h.1
  unfold OneLine
  cases hchars : text.toList with
  | nil => simp
  | cons first rest =>
    simp only [hchars, Text.isIdentifier, Bool.and_eq_true, List.all_eq_true] at hidentifier
    rw [List.forall_mem_cons]
    exact ⟨not_isLineBreak_of_contains (by decide +kernel) hidentifier.1,
      fun c hc => not_isLineBreak_of_contains (by decide +kernel) (hidentifier.2 c hc)⟩

theorem oneLine_of_all {text : String} (h : text.toList.all fun c => !isLineBreak c) : OneLine text := by
  simpa [OneLine] using h

theorem oneLine_symbol (op : Operator) : OneLine op.symbol := by
  apply oneLine_of_all
  cases op <;> decide

/-- A text of the language is on one line. -/
theorem Derives.oneLine {nonterminal : Nonterminal} {text : String} (h : Derives nonterminal text) : OneLine text := by
  have hspace : OneLine " " := oneLine_of_all (by decide)
  have hopen : OneLine "(" := oneLine_of_all (by decide)
  have hclose : OneLine ")" := oneLine_of_all (by decide)
  induction h with
  | assignment isName _ ih =>
    have hequals : OneLine " = " := oneLine_of_all (by decide)
    exact ((oneLine_of_isName isName).append hequals).append ih
  | expression _ ih | term _ ih | unary _ ih | primary _ ih => exact ih
  | @addition op _ _ _ _ _ ihleft ihright | @multiplication op _ _ _ _ _ ihleft ihright =>
    exact (((ihleft.append hspace).append (oneLine_symbol op)).append hspace).append ihright
  | negation _ ih =>
    have hsign : OneLine "-" := oneLine_of_all (by decide)
    exact hsign.append ih
  | number n => exact oneLine_toString n
  | name isName => exact oneLine_of_isName isName
  | group _ ih => exact (hopen.append ih).append hclose
  | named isName _ ih =>
    have hnamed : OneLine " := " := oneLine_of_all (by decide)
    exact (((hopen.append (oneLine_of_isName isName)).append hnamed).append ih).append hclose
  | call _ _ ihcallee ihargument => exact ((ihcallee.append hopen).append ihargument).append hclose

/-! ### Expressions -/

/-- A primary, perhaps with a minus sign before it. -/
def Signed (text : String) : Prop := Derives .primary text ∨ ∃ rest, text = "-" ++ rest ∧ Derives .primary rest

theorem Signed.unary {text : String} (h : Signed text) : Derives .unary text := by
  rcases h with h | ⟨rest, rfl, h⟩
  · exact .primary h
  · exact .negation (.primary h)

/-- To call a negative number is to call its absolute value behind the sign. -/
theorem Signed.call {callee argument : String} (h : Signed callee) (operand : Derives .sum argument) :
    Signed (callee ++ "(" ++ argument ++ ")") := by
  rcases h with h | ⟨rest, rfl, h⟩
  · exact .inl (.call h operand)
  · refine .inr ⟨rest ++ "(" ++ argument ++ ")", ?_, .call h operand⟩
    simp only [String.append_assoc]

/-- The text has a derivation that fits where an operand of a least precedence is required. -/
def Fits : Nat → String → Prop
  | 0 | 1 => Derives .sum
  | 2 => Derives .term
  | 3 => Derives .unary
  | _ => Signed

theorem Fits.pred {least : Nat} {text : String} (h : Fits (least + 1) text) : Fits least text := by
  match least, h with
  | 0, h => exact h
  | 1, h => exact .term h
  | 2, h => exact .unary h
  | 3, h => exact Signed.unary h
  | _ + 4, h => exact h

theorem Fits.mono {least least' : Nat} {text : String} (h : Fits least' text) (hle : least ≤ least') :
    Fits least text := by
  induction hle with
  | refl => exact h
  | step _ ih => exact ih h.pred

theorem Fits.sum {least : Nat} {text : String} (h : Fits least text) : Derives .sum text := h.mono (Nat.zero_le _)

theorem fits_of_signed {text : String} (h : Signed text) (least : Nat) : Fits least text := by
  have hfits : Fits (least + 4) text := h
  exact hfits.mono (Nat.le_add_right _ _)

theorem fits_of_primary {text : String} (h : Derives .primary text) (least : Nat) : Fits least text :=
  fits_of_signed (.inl h) least

/-- The parentheses make a text fit. -/
theorem Fits.enclosed {precedence : Nat} {text : String} (h : Fits precedence text) (least : Nat) :
    Fits least (enclosed precedence least text) := by
  unfold Script.enclosed
  split
  · exact fits_of_primary (.group h.sum) least
  · next hle => exact h.mono (by omega)

/-- The text of an operation, derived from the nonterminal of the operator. -/
theorem fits_binary {op : Operator} {left right : String} (first : Fits op.precedence left)
    (second : Fits (op.precedence + 1) right) : Fits op.precedence (left ++ " " ++ op.symbol ++ " " ++ right) := by
  cases op with
  | add => exact .addition (.inl rfl) first second
  | sub => exact .addition (.inr rfl) first second
  | mul => exact .multiplication (.inl rfl) first second
  | div => exact .multiplication (.inr rfl) first second

theorem signed_toString (n : Int) : Signed (toString n) := by
  rcases Int.lt_or_le n 0 with hneg | hnonneg
  · rw [toString_of_neg hneg]
    exact .inr ⟨_, rfl, .number _⟩
  · rw [toString_of_nonneg hnonneg]
    exact .inl (.number _)

theorem signed_of_atomText {spelling text : String} (h : atomText spelling = .ok text) : Signed text := by
  unfold atomText at h
  dsimp only at h
  split at h
  · split at h
    · cases h
      exact signed_toString _
    · cases h
  · split at h
    · next hname =>
      cases h
      exact .inl (.name hname)
    · cases h

theorem isName_of_targetText {t : Tree} {name : String} (h : targetText t = .ok name) : isName name := by
  unfold targetText at h
  split at h
  · next spelling =>
    split at h
    · cases h
    · next hliteral =>
      have hchars : ¬ isIntegerChars spelling.toList := hliteral
      simp only [atomText, hchars, if_false, Bool.false_eq_true] at h
      split at h
      · next hname =>
        cases h
        exact hname
      · cases h
  · cases h

/-- The text of a tree is derived from the nonterminal that its place requires. -/
theorem emit_fits {t : Tree} {least : Nat} {text : String} (h : emit t least = .ok text) : Fits least text := by
  fun_induction emit t least generalizing text with
  | case1 => cases h
  | case2 t least spelling hform => exact fits_of_signed (signed_of_atomText h) least
  | case3 => cases h
  | case4 t least target value hform ih =>
    obtain ⟨name, hname, h⟩ := exists_of_bind h
    obtain ⟨right, hright, h⟩ := exists_of_bind h
    cases h
    exact fits_of_primary (.named (isName_of_targetText hname) (ih hright)) least
  | case5 t least op left right hform ihleft ihright =>
    obtain ⟨leftText, hleft, h⟩ := exists_of_bind h
    obtain ⟨rightText, hright, h⟩ := exists_of_bind h
    cases h
    exact (fits_binary (ihleft hleft) (ihright hright)).enclosed least
  | case6 t least operand hform ih =>
    obtain ⟨inner, hinner, h⟩ := exists_of_bind h
    cases h
    have hunary : Fits negationPrecedence ("-" ++ inner) := .negation (ih hinner)
    exact hunary.enclosed least
  | case7 t least callee argument hform ihcallee ihargument =>
    obtain ⟨calleeText, hcallee, h⟩ := exists_of_bind h
    obtain ⟨inner, hinner, h⟩ := exists_of_bind h
    cases h
    have hsigned : Signed calleeText := ihcallee hcallee
    exact fits_of_signed (hsigned.call (ihargument hinner)) least
  | case8 => cases h

/-! ### Statements -/

/-- The text of a statement is a statement of the language. -/
theorem derives_of_statement {s : Tree} {text : String} (h : statement s = .ok text) : Derives .statement text := by
  rw [statement_form] at h
  split at h
  · next target value hform =>
    rw [expression_eq_emit] at h
    obtain ⟨name, hname, h⟩ := exists_of_bind h
    obtain ⟨right, hright, h⟩ := exists_of_bind h
    cases h
    exact .assignment (isName_of_targetText hname) (emit_fits hright).sum
  · rw [expression_eq_emit] at h
    exact .expression (emit_fits h).sum

/-- To write several trees gives a text for each of them, or the error of the first one that has none. -/
theorem mapM_statement (ts : List Tree) :
    (∃ texts, ts.mapM statement = .ok texts ∧ ts.map statement = texts.map .ok) ∨
      ∃ before s after error, ts = before ++ s :: after ∧ (∀ u ∈ before, ∃ text, statement u = .ok text) ∧
        statement s = .error error ∧ ts.mapM statement = .error error := by
  cases h : ts.mapM statement with
  | ok texts =>
    refine .inl ⟨texts, rfl, ?_⟩
    rw [← List.forall₂_eq_eq_eq, List.forall₂_map_left_iff, List.forall₂_map_right_iff]
    exact mapM_eq_ok_iff.mp h
  | error error =>
    obtain ⟨before, s, after, hts, hbefore, hs⟩ := mapM_eq_error_iff.mp h
    exact .inr ⟨before, s, after, error, hts, hbefore, hs, rfl⟩

/-- A script is the texts of the statements of the tree, each of them a statement of the language and on a line of its
own.  A tree has no script only if one of its statements has no text, and then the error is that of the first one. -/
theorem ofTree_language (t : Tree) :
    (∃ texts, ofTree t = .ok ("\n".intercalate texts) ∧
        t.statements.map statement = texts.map .ok ∧
        ∀ text ∈ texts, Derives .statement text ∧ ∀ c ∈ text.toList, ¬ isLineBreak c) ∨
      ∃ before s after error, t.statements = before ++ s :: after ∧
        (∀ u ∈ before, ∃ text, statement u = .ok text) ∧ statement s = .error error ∧ ofTree t = .error error := by
  rcases mapM_statement t.statements with ⟨texts, hall, hmap⟩ | ⟨before, s, after, error, hts, hbefore, hs, hall⟩
  · refine .inl ⟨texts, ?_, hmap, fun text htext => ?_⟩
    · rw [ofTree, hall]
      rfl
    · have hmem : .ok text ∈ t.statements.map statement := hmap ▸ List.mem_map_of_mem htext
      obtain ⟨s, -, hs⟩ := List.mem_map.mp hmem
      have hderives := derives_of_statement hs
      exact ⟨hderives, hderives.oneLine⟩
  · refine .inr ⟨before, s, after, error, hts, hbefore, hs, ?_⟩
    rw [ofTree, hall]
    rfl

end Precedence.Script
