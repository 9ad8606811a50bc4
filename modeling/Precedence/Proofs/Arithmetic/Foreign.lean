import Precedence.Proofs.Arithmetic.Spacing
import Precedence.Proofs.Parse.Result

/-!
# Foreign characters

A character is foreign if it is neither white space nor part of a token of the arithmetic grammar.  Cutting a text into
tokens ends at the first foreign character, or it does not begin, where there is nothing but white space in front of
that character (`left_eq`).  What is in front of the place where it ends is cut into the same tokens on its own, and
nothing is left over of it.  So the tree of a text is that of its front, and there is one more report
(`exists_front`).
-/

namespace Precedence.Arithmetic

open Pattern Parse

/-- Whether the character is neither white space nor a digit nor an ASCII letter nor an underscore nor a mark. -/
def isForeign (c : Char) : Bool :=
  !(Text.isSpace c || Text.isDigit c || c.isAlpha || c = '_' || ['+', '-', '*', '/', '(', ')', '=', ';'].contains c)

/-- The characters in front of the first foreign one. -/
def nativePart (text : List Char) : List Char := text.takeWhile fun c => !isForeign c

/-- The text from the first foreign character on. -/
def foreignPart (text : List Char) : List Char := text.dropWhile fun c => !isForeign c

/-- The characters of symbols that are no digits are the letters and the underscore, and so the foreign characters are
those that no lexeme begins with. -/
theorem isForeign_iff {c : Char} : isForeign c ↔ ¬ Text.isSpace c ∧ entryFor? lexicon c = none := by
  have hword : ¬ Text.isDigit c ∧ ¬ isWordChar c ↔ ¬ Text.isDigit c ∧ ¬ (c.isAlpha ∨ c = '_') := by
    rw [← isWordChar_and_not_isDigit_iff]
    tauto
  have hmarks : (∀ kind, (kind, c) ∉ marks) ↔ ¬ ['+', '-', '*', '/', '(', ')', '=', ';'].contains c := by
    have hchars : marks.map Prod.snd = ['+', '-', '*', '/', '(', ')', '=', ';'] := rfl
    rw [← hchars, List.contains_eq_mem, decide_eq_true_eq, List.mem_map]
    simp
  rw [entryFor?_eq_none_iff, ← and_assoc (c := ∀ kind, (kind, c) ∉ marks), hword, hmarks]
  simp only [isForeign, Bool.not_eq_true', Bool.or_eq_false_iff, decide_eq_false_iff_not, not_or, Bool.not_eq_true,
    and_assoc]

theorem not_isForeign_of_isSpace {c : Char} (h : Text.isSpace c) : ¬ isForeign c := fun hforeign =>
  (isForeign_iff.mp hforeign).1 h

theorem Lexeme.not_isForeign {kind : Kind} {lexeme : List Char} (h : Lexeme kind lexeme) :
    ∀ c ∈ lexeme, ¬ isForeign c := by
  intro c hc hforeign
  obtain ⟨hdigit, hword, hmark⟩ := entryFor?_eq_none_iff.mp (isForeign_iff.mp hforeign).2
  cases h with
  | number digits =>
    simp only [isNumeral, Bool.and_eq_true, List.all_eq_true] at digits
    exact hdigit (digits.2 c hc)
  | symbol first more =>
    rcases List.mem_cons.mp hc with rfl | hc
    · exact hword first.1
    · exact hword (more c hc)
  | mark h =>
    obtain rfl := List.mem_singleton.mp hc
    exact hmark _ h

/-- A rendering has no foreign characters. -/
theorem Renders.not_isForeign {tokens : List Token} {text : List Char} (h : Renders tokens text) :
    ∀ c ∈ text, ¬ isForeign c := by
  induction h with
  | nil spaces => exact fun c hc => not_isForeign_of_isSpace (spaces c hc)
  | cons spaces written _ _ ih =>
    refine List.forall_mem_append.mpr ⟨fun c hc => not_isForeign_of_isSpace (spaces c hc), ?_⟩
    exact List.forall_mem_append.mpr ⟨written.not_isForeign, ih⟩

/-- A rendering of any tokens has more than white space. -/
theorem Renders.exists_solid {tokens : List Token} {text : List Char} (h : Renders tokens text) (hne : tokens ≠ []) :
    ∃ c ∈ text, ¬ Text.isSpace c := by
  cases h with
  | nil => exact absurd rfl hne
  | cons _ written _ _ =>
    obtain ⟨c, chars, rfl, hsolid⟩ := written.exists_cons
    exact ⟨c, by simp, hsolid⟩

theorem parts_append {front rest : List Char} (hfront : ∀ c ∈ front, ¬ isForeign c)
    (hrest : ∀ c ∈ rest.head?, isForeign c) :
    nativePart (front ++ rest) = front ∧ foreignPart (front ++ rest) = rest := by
  have hnative : ∀ c ∈ front, !isForeign c := fun c hc => by simpa using hfront c hc
  unfold nativePart foreignPart
  rw [List.takeWhile_append_of_pos hnative, List.dropWhile_append_of_pos hnative]
  cases rest with
  | nil => simp
  | cons c rest => simp [hrest c rfl]

/-- What is left over of a text. -/
theorem left_eq {tokens : List Token} {text left : List Char} (h : tokensOf rules text = .ok (tokens, left)) :
    left = if (nativePart text).all Text.isSpace then text else foreignPart text := by
  obtain ⟨front, rfl, hrenders, hempty, hnone, hsolid⟩ := exists_renders_of_tokensOf h
  have hforeign : ∀ c ∈ (begun left).head?, isForeign c := fun c hc =>
    isForeign_iff.mpr ⟨not_isSpace_of_begun hc, by simpa [Option.mem_def.mp hc] using hnone⟩
  by_cases hne : tokens = []
  · rw [hempty hne, List.nil_append]
    -- the text begins with white space, and what comes behind that is foreign
    obtain ⟨before, spaces, hbefore⟩ := spaces_append_begun left
    obtain ⟨hnative, -⟩ := parts_append (fun c hc => not_isForeign_of_isSpace (spaces c hc)) hforeign
    rw [hbefore] at hnative
    rw [hnative, if_pos (List.all_eq_true.mpr spaces)]
  · have hbegun : begun left = left := begun_of_spaces (List.forall_mem_nil _) (hsolid hne)
    rw [hbegun] at hforeign
    obtain ⟨hnative, hrest⟩ := parts_append hrenders.not_isForeign hforeign
    obtain ⟨c, hc, hnot⟩ := hrenders.exists_solid hne
    rw [hnative, hrest, if_neg fun hall => hnot (List.all_eq_true.mp hall c hc)]

/-- Every source is cut into a front and what is left over.  What is left over begins at the first foreign character, or
it is the whole source if there is nothing but white space in front of that character.  The front alone is cut into the
same tokens, and nothing is reported on it.  The source has the value that the front has, or neither has any, and it has
one report in front of those on the front: that no rule matches where the rest begins. -/
theorem exists_front [Runtime] (source : String) : ∃ front lexed,
    lex rules source = .ok lexed ∧ source = front ++ lexed.leftover ∧
    lexed.leftover.toList = (if (nativePart source.toList).all Text.isSpace then source.toList
      else foreignPart source.toList) ∧
    lexed.diagnostics = (if lexed.leftover = "" then [] else [untokenizable rules lexed.leftover.toList]) ∧
    lex rules front = .ok ⟨lexed.tokens, "", []⟩ ∧
    ∀ strict, (parser strict).parseResult source = ((parser strict).parseResult front).map fun result =>
      ⟨result.value, lexed.diagnostics ++ result.diagnostics, lexed.leftover⟩ := by
  obtain ⟨lexed, hlexed⟩ := exists_lex source
  obtain ⟨tokens, left, htokens, -⟩ := exists_tokensOf hlexed
  obtain ⟨front, hsource, hrenders, hempty, -⟩ := exists_renders_of_tokensOf htokens
  have hfront : tokensOf rules (String.ofList front).toList = .ok (tokens, []) := by
    rw [String.toList_ofList]
    exact tokensOf_eq_iff.mpr ⟨hrenders, hempty⟩
  refine ⟨String.ofList front, _, lex_of_tokensOf htokens, ?_, ?_, ?_, lex_of_tokensOf hfront, fun strict => ?_⟩
  · rw [← String.ofList_append, hsource, String.ofList_toList]
  · rw [String.toList_ofList]
    exact left_eq htokens
  · cases left <;> simp
  · rw [← parser_rules strict] at htokens hfront
    rw [parseResult_of_tokensOf htokens, parseResult_of_tokensOf hfront, parser_rules]
    cases wholeExpression depthLimit (.initial tokens) <;> rfl

end Precedence.Arithmetic
