import Precedence.Arithmetic
import Precedence.Proofs.Lexing.Lexicon

/-!
# Rendering of tokens

A text is cut into tokens of the arithmetic grammar with nothing left over if and only if it is a rendering of them
(`tokensOf_eq_iff`): their lexemes one after the other, with white space before and after each of them as long as no
lexeme runs on into what follows it.
-/

namespace Precedence.Arithmetic

open Pattern

/-! ### Lexemes -/

/-- Whether the character is an ASCII letter, an ASCII digit or an underscore. -/
def isWordChar (c : Char) : Bool := c.isAlphanum || c = '_'

/-- The kinds of tokens of a single character. -/
def marks : List (Kind × Char) :=
  [(.plus, '+'), (.minus, '-'), (.times, '*'), (.divide, '/'), (.openParen, '('), (.closeParen, ')'), (.assign, '='),
   (.sequence, ';')]

/-- The characters of a token of the kind. -/
inductive Lexeme : Kind → List Char → Prop
  | number {chars : List Char} (digits : isNumeral chars) : Lexeme .number chars
  | symbol {c : Char} {chars : List Char} (first : isWordChar c ∧ ¬ Text.isDigit c)
      (more : ∀ c ∈ chars, isWordChar c) : Lexeme .symbol (c :: chars)
  | mark {kind : Kind} {c : Char} (h : (kind, c) ∈ marks) : Lexeme kind [c]

/-- Whether a token of the kind runs on through the character. -/
def runsOn (kind : Kind) (c : Char) : Bool :=
  decide (kind = .number) && Text.isDigit c || decide (kind = .symbol) && isWordChar c

@[simp] theorem runsOn_number (c : Char) : runsOn .number c = Text.isDigit c := by
  simp [runsOn, show Kind.number ≠ .symbol by decide]

@[simp] theorem runsOn_symbol (c : Char) : runsOn .symbol c = isWordChar c := by
  simp [runsOn, show Kind.symbol ≠ .number by decide]

theorem runsOn_of_mem_marks {kind : Kind} {c d : Char} (h : (kind, c) ∈ marks) : runsOn kind d = false := by
  have hkinds : ∀ mark ∈ marks, mark.1 ≠ .number ∧ mark.1 ≠ .symbol := by decide
  have := hkinds _ h
  simp [runsOn, this.1, this.2]

/-- No token runs on through the character of a mark. -/
theorem not_runsOn_of_mem_marks {kind other : Kind} {c : Char} (h : (kind, c) ∈ marks) : ¬ runsOn other c := by
  have hchars : ∀ mark ∈ marks, ¬ Text.isDigit mark.2 ∧ ¬ isWordChar mark.2 := by decide
  have := hchars _ h
  simp [runsOn, this.1, this.2]

/-! ### The lexicon -/

theorem exists_of_contains {ranges : Text.Ranges} {n : Nat} (h : ranges.contains n) :
    ∃ r ∈ ranges, r.1 ≤ n ∧ n ≤ r.2 := by
  induction ranges with
  | nil => simp [Text.Ranges.contains, Text.Ranges.find?] at h
  | cons r ranges ih =>
    simp only [Text.Ranges.contains, Text.Ranges.find?] at h ih
    split at h
    · cases h
    split at h
    · exact ⟨r, List.mem_cons_self, by omega, by omega⟩
    · obtain ⟨s, hs, hbounds⟩ := ih h
      exact ⟨s, List.mem_cons_of_mem _ hs, hbounds⟩

theorem not_isDigit_of_isSpace {c : Char} (h : Text.isSpace c) : ¬ Text.isDigit c := by
  intro hdigit
  have hdisjoint : ∀ r ∈ Text.spaceRanges, ∀ s ∈ Text.digitRanges, r.2 < s.1 ∨ s.2 < r.1 := by decide
  obtain ⟨r, hr, hlo, hhi⟩ := exists_of_contains h
  obtain ⟨s, hs, hlo', hhi'⟩ := exists_of_contains hdigit
  have := hdisjoint r hr s hs
  omega

theorem isUpper_iff (c : Char) : c.isUpper ↔ 65 ≤ c.toNat ∧ c.toNat ≤ 90 := by
  show decide (65 ≤ c.val ∧ c.val ≤ 90) = true ↔ _
  rw [decide_eq_true_iff, UInt32.le_iff_toNat_le, UInt32.le_iff_toNat_le]
  rfl

theorem isLower_iff (c : Char) : c.isLower ↔ 97 ≤ c.toNat ∧ c.toNat ≤ 122 := by
  show (decide (97 ≤ c.val) && decide (c.val ≤ 122)) = true ↔ _
  rw [Bool.and_eq_true, decide_eq_true_iff, decide_eq_true_iff, UInt32.le_iff_toNat_le, UInt32.le_iff_toNat_le]
  rfl

theorem isDigit_iff (c : Char) : c.isDigit ↔ 48 ≤ c.toNat ∧ c.toNat ≤ 57 := Char.isDigit_iff_toNat

theorem isWordChar_iff {c : Char} : isWordChar c ↔
    97 ≤ c.toNat ∧ c.toNat ≤ 122 ∨ 65 ≤ c.toNat ∧ c.toNat ≤ 90 ∨ 48 ≤ c.toNat ∧ c.toNat ≤ 57 ∨ c.toNat = 95 := by
  have hunderscore : c = '_' ↔ c.toNat = 95 := Char.toNat_inj.symm
  show ((c.isUpper || c.isLower) || c.isDigit || decide (c = '_')) = true ↔ _
  rw [Bool.or_eq_true, Bool.or_eq_true, Bool.or_eq_true, decide_eq_true_iff, isUpper_iff, isLower_iff, isDigit_iff,
    hunderscore]
  omega

theorem not_isWordChar_of_isSpace {c : Char} (h : Text.isSpace c) : ¬ isWordChar c := by
  have hdisjoint : ∀ r ∈ Text.spaceRanges, r.2 < 48 ∨ 122 < r.1 := by decide
  obtain ⟨r, hr, hlo, hhi⟩ := exists_of_contains h
  have := hdisjoint r hr
  rw [isWordChar_iff]
  omega

/-- The digits of any script. -/
def digits : CharSet := ⟨[.named .digit false false], false, .exact⟩

@[simp] theorem contains_digits (c : Char) : digits.contains c = Text.isDigit c := by
  simp [digits, CharSet.contains_exact, SetItem.contains, Category.contains]

/-- ASCII letters, ASCII digits and the underscore. -/
def wordChars : CharSet := ⟨[.range 97 122, .range 65 90, .range 48 57, .char 95], false, .exact⟩

@[simp] theorem contains_wordChars (c : Char) : wordChars.contains c = isWordChar c := by
  rw [Bool.eq_iff_iff, isWordChar_iff]
  simp [wordChars, CharSet.contains_exact, SetItem.contains]

@[simp] theorem contains_single (c d : Char) : (CharSet.single d.toNat .exact).contains c = decide (c = d) := by
  rw [Bool.eq_iff_iff]
  simp [CharSet.single, CharSet.contains_exact, SetItem.contains, Char.toNat_inj]

/-- The entry for numbers. -/
def numberEntry : Entry where
  lexical := ⟨digits, true, fun c h => by simpa using not_isDigit_of_isSpace h⟩
  source := "\\s*(\\d+)\\s*"
  kind := .number

/-- The entry for symbols. -/
def symbolEntry : Entry where
  lexical := ⟨wordChars, true, fun c h => by simpa using not_isWordChar_of_isSpace h⟩
  source := "\\s*([a-zA-Z0-9_]+)\\s*"
  kind := .symbol

/-- The entry for tokens of a single character. -/
def markEntry (kind : Kind) (c : Char) (source : String) (solid : ¬ Text.isSpace c) : Entry where
  lexical := ⟨.single c.toNat .exact, false, fun d h => by
    rw [contains_single]
    rintro hd
    exact solid (of_decide_eq_true hd ▸ h)⟩
  source := source
  kind := kind

/-- The entries for tokens of a single character. -/
def markEntries : List Entry :=
  [markEntry .plus '+' "\\s*(\\+)\\s*" (by decide), markEntry .minus '-' "\\s*(-)\\s*" (by decide),
   markEntry .times '*' "\\s*(\\*)\\s*" (by decide), markEntry .divide '/' "\\s*(/)\\s*" (by decide),
   markEntry .openParen '(' "\\s*(\\()\\s*" (by decide), markEntry .closeParen ')' "\\s*(\\))\\s*" (by decide),
   markEntry .assign '=' "\\s*(=)\\s*" (by decide), markEntry .sequence ';' "\\s*(;)\\s*" (by decide)]

/-- The lexicon of the grammar. -/
def lexicon : List Entry := numberEntry :: (markEntries ++ [symbolEntry])

theorem rules_eq : rules = lexicon.map Entry.rule := by decide +kernel

theorem parser_rules (strict : Bool) : (parser strict).rules = rules := by
  simp only [parser]

theorem rule_kind_mem : ∀ rule ∈ rules, rule.kind ∈ Kind.arithmetic := by
  intro rule hrule
  have hall : ∀ entry ∈ lexicon, entry.kind ∈ Kind.arithmetic := by decide
  rw [rules_eq] at hrule
  obtain ⟨entry, hentry, rfl⟩ := List.mem_map.mp hrule
  exact hall entry hentry

/-- The entry for a character is that for numbers if the character is a digit, and else one of the others. -/
theorem entryFor?_eq (c : Char) :
    entryFor? lexicon c = if Text.isDigit c then some numberEntry
      else (entryFor? markEntries c).or (if isWordChar c then some symbolEntry else none) := by
  unfold entryFor? lexicon
  rw [List.find?_cons, List.find?_append]
  by_cases hdigit : Text.isDigit c
  · simp [numberEntry, hdigit]
  · by_cases hword : isWordChar c <;> simp [numberEntry, symbolEntry, hdigit, hword]

private theorem mem_marks_of_entryFor? {c : Char} {entry : Entry} (h : entryFor? markEntries c = some entry) :
    (entry.kind, c) ∈ marks ∧ entry.lexical.set.contains c ∧ entry.lexical.isRepeated = false := by
  have hmem := List.mem_of_find?_eq_some h
  have hc : entry.lexical.set.contains c := by simpa using List.find?_some h
  refine ⟨?_, hc, ?_⟩
  all_goals
    simp only [markEntries, List.mem_cons, List.not_mem_nil, or_false] at hmem
    rcases hmem with rfl | rfl | rfl | rfl | rfl | rfl | rfl | rfl
  all_goals
    simp only [markEntry, contains_single, decide_eq_true_eq] at hc
    subst hc
    decide

private theorem entryFor?_of_mem_marks {kind : Kind} {c : Char} (h : (kind, c) ∈ marks) :
    ¬ Text.isDigit c ∧ ∃ entry, entryFor? markEntries c = some entry ∧ entry.kind = kind := by
  simp only [marks, List.mem_cons, List.not_mem_nil, or_false, Prod.mk.injEq] at h
  rcases h with ⟨rfl, rfl⟩ | ⟨rfl, rfl⟩ | ⟨rfl, rfl⟩ | ⟨rfl, rfl⟩ | ⟨rfl, rfl⟩ | ⟨rfl, rfl⟩ | ⟨rfl, rfl⟩ | ⟨rfl, rfl⟩
  all_goals exact ⟨by decide, _, rfl, rfl⟩

private theorem entryFor?_markEntries_of_isWordChar {c : Char} (h : isWordChar c) : entryFor? markEntries c = none := by
  cases hentry : entryFor? markEntries c with
  | none => rfl
  | some entry =>
    have hmark := (mem_marks_of_entryFor? hentry).1
    have hnot : ∀ mark ∈ marks, ¬ isWordChar mark.2 := by decide
    exact absurd h (hnot _ hmark)

/-- No lexeme begins with the character. -/
theorem entryFor?_eq_none_iff {c : Char} :
    entryFor? lexicon c = none ↔ ¬ Text.isDigit c ∧ ¬ isWordChar c ∧ ∀ kind, (kind, c) ∉ marks := by
  rw [entryFor?_eq]
  constructor
  · intro h
    refine ⟨fun hdigit => by simp [hdigit] at h, fun hword => ?_, fun kind hmark => ?_⟩
    · by_cases hdigit : Text.isDigit c <;> simp [hdigit, hword] at h
    · obtain ⟨hdigit, entry, hentry, -⟩ := entryFor?_of_mem_marks hmark
      simp [hdigit, hentry] at h
  · rintro ⟨hdigit, hword, hmarks⟩
    rw [if_neg hdigit, if_neg hword, Option.or_none]
    cases hentry : entryFor? markEntries c with
    | none => rfl
    | some entry => exact absurd (mem_marks_of_entryFor? hentry).1 (hmarks entry.kind)

/-- The entry for the first character of a lexeme takes the whole lexeme if it does not run on. -/
theorem Lexeme.exists_entry {kind : Kind} {lexeme rest : List Char} (h : Lexeme kind lexeme)
    (stops : ∀ c ∈ rest.head?, ¬ runsOn kind c) :
    ∃ entry, (lexeme ++ rest).head?.bind (entryFor? lexicon) = some entry ∧ entry.kind = kind ∧
      entry.lexical.length (lexeme ++ rest) = lexeme.length := by
  cases h with
  | number hdigits =>
    rcases lexeme with _ | ⟨c, chars⟩
    · cases hdigits
    have hall : ∀ d ∈ c :: chars, Text.isDigit d := by simpa [isNumeral] using hdigits
    refine ⟨numberEntry, ?_, rfl, ?_⟩
    · simp [entryFor?_eq, hall c List.mem_cons_self]
    · show digits.span (c :: chars ++ rest) = _
      refine CharSet.span_append (by simpa using hall) fun d hd => ?_
      simpa using stops d hd
  | @symbol c chars first more =>
    have hall : ∀ d ∈ c :: chars, isWordChar d := List.forall_mem_cons.mpr ⟨first.1, more⟩
    refine ⟨symbolEntry, ?_, rfl, ?_⟩
    · simp [entryFor?_eq, first.1, first.2, entryFor?_markEntries_of_isWordChar first.1]
    · show wordChars.span (c :: chars ++ rest) = _
      refine CharSet.span_append (by simpa using hall) fun d hd => ?_
      simpa using stops d hd
  | @mark _ c hmark =>
    obtain ⟨hdigit, entry, hentry, hkind⟩ := entryFor?_of_mem_marks hmark
    obtain ⟨-, hc, hsingle⟩ := mem_marks_of_entryFor? hentry
    refine ⟨entry, by simp [entryFor?_eq, hdigit, hentry], hkind, ?_⟩
    simp [Lexical.length, hsingle, CharSet.span_cons, hc]

/-- What the entry for the first character of a text takes is a lexeme that does not run on. -/
theorem lexeme_of_entryFor? {c : Char} {entry : Entry} (h : entryFor? lexicon c = some entry) (text : List Char) :
    Lexeme entry.kind ((c :: text).take (entry.lexical.length (c :: text))) ∧
      ∀ d ∈ ((c :: text).drop (entry.lexical.length (c :: text))).head?, ¬ runsOn entry.kind d := by
  rw [entryFor?_eq] at h
  by_cases hdigit : Text.isDigit c
  · obtain rfl : numberEntry = entry := by simpa [hdigit] using h
    have hlength : numberEntry.lexical.length (c :: text) = digits.span (c :: text) := rfl
    have hpos : digits.span (c :: text) = digits.span text + 1 := by simp [CharSet.span_cons, hdigit]
    have hall : ∀ d ∈ (c :: text).take (digits.span (c :: text)), Text.isDigit d := fun d hd => by
      simpa using CharSet.contains_of_mem_take hd
    rw [hlength]
    refine ⟨.number ?_, fun d hd => by simpa [numberEntry] using CharSet.not_contains_head_drop hd⟩
    simpa [isNumeral, hpos] using hall
  · rw [if_neg hdigit] at h
    cases hentry : entryFor? markEntries c with
    | some other =>
      obtain rfl : other = entry := by simpa [hentry] using h
      obtain ⟨hmark, hc, hsingle⟩ := mem_marks_of_entryFor? hentry
      have hlength : other.lexical.length (c :: text) = 1 := by
        simp [Lexical.length, hsingle, CharSet.span_cons, hc]
      rw [hlength]
      exact ⟨.mark hmark, fun d _ => by simp [runsOn_of_mem_marks hmark]⟩
    | none =>
      by_cases hword : isWordChar c
      · obtain rfl : symbolEntry = entry := by simpa [hentry, hword] using h
        have hlength : symbolEntry.lexical.length (c :: text) = wordChars.span (c :: text) := rfl
        have hpos : wordChars.span (c :: text) = wordChars.span text + 1 := by simp [CharSet.span_cons, hword]
        have hall : ∀ d ∈ (c :: text).take (wordChars.span (c :: text)), isWordChar d := fun d hd => by
          simpa using CharSet.contains_of_mem_take hd
        rw [hlength]
        refine ⟨?_, fun d hd => by simpa [symbolEntry] using CharSet.not_contains_head_drop hd⟩
        rw [hpos, List.take_succ_cons] at hall ⊢
        exact .symbol ⟨hword, hdigit⟩ fun d hd => hall d (List.mem_cons_of_mem _ hd)
      · simp [hentry, hword] at h

/-! ### Renderings -/

/-- The text consists of the lexemes of the tokens, with white space around them. -/
inductive Renders : List Token → List Char → Prop
  | nil {after : List Char} (spaces : ∀ c ∈ after, Text.isSpace c) : Renders [] after
  | cons {kind : Kind} {before lexeme rest : List Char} {tokens : List Token} (spaces : ∀ c ∈ before, Text.isSpace c)
      (written : Lexeme kind lexeme) (stops : ∀ c ∈ rest.head?, ¬ runsOn kind c) (more : Renders tokens rest) :
      Renders (⟨kind, String.ofList lexeme⟩ :: tokens) (before ++ (lexeme ++ rest))

theorem Renders.lexeme {kind : Kind} {lexeme rest : List Char} {tokens : List Token} (written : Lexeme kind lexeme)
    (stops : ∀ c ∈ rest.head?, ¬ runsOn kind c) (more : Renders tokens rest) :
    Renders (⟨kind, String.ofList lexeme⟩ :: tokens) (lexeme ++ rest) := by
  have h := Renders.cons (List.forall_mem_nil _) written stops more
  exact h

theorem Renders.space {tokens : List Token} {before text : List Char} (h : Renders tokens text)
    (spaces : ∀ c ∈ before, Text.isSpace c) : Renders tokens (before ++ text) := by
  cases h with
  | nil hafter => exact .nil (List.forall_mem_append.mpr ⟨spaces, hafter⟩)
  | cons hbefore written stops more =>
    rw [← List.append_assoc]
    exact .cons (List.forall_mem_append.mpr ⟨spaces, hbefore⟩) written stops more

/-- A rendering goes on with another one that none of its lexemes runs on into. -/
theorem Renders.append {tokens others : List Token} {text rest : List Char} (h : Renders tokens text)
    (hrest : Renders others rest) (apart : ∀ kind, ∀ c ∈ rest.head?, ¬ runsOn kind c) :
    Renders (tokens ++ others) (text ++ rest) := by
  induction h with
  | nil spaces => exact hrest.space spaces
  | @cons kind before lexeme behind tokens spaces written stops more ih =>
    have hstops : ∀ c ∈ (behind ++ rest).head?, ¬ runsOn kind c := by
      cases behind with
      | nil => exact apart kind
      | cons c behind => exact stops
    rw [List.append_assoc, List.append_assoc]
    exact .cons spaces written hstops ih

theorem Renders.mark {kind : Kind} {c : Char} {tokens : List Token} {rest : List Char} (h : (kind, c) ∈ marks)
    (more : Renders tokens rest) : Renders (⟨kind, String.ofList [c]⟩ :: tokens) (c :: rest) :=
  .lexeme (.mark h) (fun _ _ => by rw [runsOn_of_mem_marks h]; exact Bool.false_ne_true) more

/-- A rendering goes on with a mark and another rendering. -/
theorem Renders.append_mark {kind : Kind} {c : Char} {tokens others : List Token} {text rest : List Char}
    (h : Renders tokens text) (hmark : (kind, c) ∈ marks) (hrest : Renders others rest) :
    Renders (tokens ++ ⟨kind, String.ofList [c]⟩ :: others) (text ++ c :: rest) := by
  refine h.append (.mark hmark hrest) fun other d hd => ?_
  obtain rfl : c = d := by simpa using hd
  exact not_runsOn_of_mem_marks hmark

theorem begun_of_spaces {before text : List Char} (spaces : ∀ c ∈ before, Text.isSpace c)
    (solid : ∀ c ∈ text.head?, ¬ Text.isSpace c) : begun (before ++ text) = text := by
  have hspan : Pattern.spaces.span (before ++ text) = before.length :=
    CharSet.span_append (by simpa using spaces) (by simpa using solid)
  rw [begun, hspan, List.drop_left]

theorem Lexeme.exists_cons {kind : Kind} {lexeme : List Char} (h : Lexeme kind lexeme) :
    ∃ c chars, lexeme = c :: chars ∧ ¬ Text.isSpace c := by
  cases h with
  | number hdigits =>
    rcases lexeme with _ | ⟨c, chars⟩
    · cases hdigits
    simp only [isNumeral, List.all_cons, Bool.and_eq_true] at hdigits
    exact ⟨c, chars, rfl, fun hspace => not_isDigit_of_isSpace hspace hdigits.2.1⟩
  | symbol first _ => exact ⟨_, _, rfl, fun hspace => not_isWordChar_of_isSpace hspace first.1⟩
  | @mark _ c hmark =>
    have hnot : ∀ mark ∈ marks, ¬ Text.isSpace mark.2 := by decide
    exact ⟨c, [], rfl, hnot _ hmark⟩

private theorem begun_before_lexeme {kind : Kind} {before lexeme : List Char} (spaces : ∀ c ∈ before, Text.isSpace c)
    (written : Lexeme kind lexeme) (rest : List Char) : begun (before ++ (lexeme ++ rest)) = lexeme ++ rest := by
  obtain ⟨c, chars, rfl, solid⟩ := written.exists_cons
  exact begun_of_spaces spaces (by simpa using solid)

/-- The first lexeme of a rendering is cut off. -/
private theorem tokensOf_cons {kind : Kind} {before lexeme rest : List Char} {tokens : List Token}
    (spaces : ∀ c ∈ before, Text.isSpace c) (written : Lexeme kind lexeme) (stops : ∀ c ∈ rest.head?, ¬ runsOn kind c)
    (more : tokensOf rules (begun rest) = .ok (tokens, [])) :
    tokensOf rules (before ++ (lexeme ++ rest)) = .ok (⟨kind, String.ofList lexeme⟩ :: tokens, []) := by
  obtain ⟨entry, hentry, rfl, hlength⟩ := written.exists_entry stops
  have hne : before ++ (lexeme ++ rest) ≠ [] := by
    obtain ⟨c, chars, rfl, -⟩ := written.exists_cons
    simp
  rw [rules_eq] at more ⊢
  rw [tokensOf_lexicon lexicon hne, begun_before_lexeme spaces written, hentry]
  simp only [Lexical.left, begun_before_lexeme spaces written, hlength, List.drop_left, more, Entry.token,
    List.take_left]

/-- A rendering is cut into its tokens from behind the white space at its start. -/
private theorem Renders.tokensOf_begun {tokens : List Token} {text : List Char} (h : Renders tokens text) :
    tokensOf rules (begun text) = .ok (tokens, []) := by
  induction h with
  | @nil after spaces =>
    have hnil : begun (after ++ []) = [] := begun_of_spaces spaces (by simp)
    rw [List.append_nil] at hnil
    rw [hnil, tokensOf, dif_pos rfl]
  | cons spaces written stops _ ih =>
    rw [begun_before_lexeme spaces written]
    have hcons := tokensOf_cons (List.forall_mem_nil _) written stops ih
    exact hcons

theorem spaces_append_begun (text : List Char) :
    ∃ before, (∀ c ∈ before, Text.isSpace c) ∧ before ++ begun text = text :=
  ⟨text.take (Pattern.spaces.span text), fun _ hc => by simpa using CharSet.contains_of_mem_take hc,
    List.take_append_drop _ text⟩

theorem not_isSpace_of_begun {text : List Char} {c : Char} (h : c ∈ (begun text).head?) :
    ¬ Text.isSpace c := by
  simpa using CharSet.not_contains_head_drop h

/-- A text has no tokens where no lexeme begins behind the white space, and else its first token is the lexeme there. -/
private theorem tokensOf_cases {tokens : List Token} {text left : List Char}
    (h : tokensOf rules text = .ok (tokens, left)) :
    tokens = [] ∧ left = text ∧ (begun text).head?.bind (entryFor? lexicon) = none ∨
      ∃ kind before lexeme rest more, text = before ++ (lexeme ++ rest) ∧
        tokens = ⟨kind, String.ofList lexeme⟩ :: more ∧ (∀ c ∈ before, Text.isSpace c) ∧ Lexeme kind lexeme ∧
        (∀ c ∈ rest.head?, ¬ runsOn kind c) ∧ tokensOf rules (begun rest) = .ok (more, left) := by
  by_cases hne : text = []
  · subst hne
    rw [tokensOf, dif_pos rfl] at h
    cases h
    exact .inl ⟨rfl, rfl, rfl⟩
  rw [rules_eq, tokensOf_lexicon lexicon hne, ← rules_eq] at h
  split at h
  · next hnone =>
    cases h
    exact .inl ⟨rfl, rfl, hnone⟩
  · next entry hentry =>
    obtain ⟨before, spaces, hbefore⟩ := spaces_append_begun text
    cases hbegun : begun text with
    | nil => simp [hbegun] at hentry
    | cons c rest =>
      simp only [hbegun, List.head?_cons, Option.bind_some] at hentry
      obtain ⟨written, stops⟩ := lexeme_of_entryFor? hentry rest
      split at h
      · cases h
      · next more behind hmore =>
        cases h
        rw [Lexical.left, hbegun] at hmore
        refine .inr ⟨_, before, _, _, more, ?_, ?_, spaces, written, stops, hmore⟩
        · rw [List.take_append_drop, ← hbegun, hbefore]
        · rw [Entry.token, hbegun]

/-- What the tokens of a text are made of is a rendering of them, and if there are none it is empty.  Behind it no
lexeme begins, and behind the last token there is no white space left. -/
theorem exists_renders_of_tokensOf {tokens : List Token} {text left : List Char}
    (h : tokensOf rules text = .ok (tokens, left)) : ∃ before, before ++ left = text ∧ Renders tokens before ∧
      (tokens = [] → before = []) ∧ (begun left).head?.bind (entryFor? lexicon) = none ∧
      (tokens ≠ [] → ∀ c ∈ left.head?, ¬ Text.isSpace c) := by
  induction hn : text.length using Nat.strongRecOn generalizing text tokens with
  | ind n ih =>
    subst hn
    rcases tokensOf_cases h with ⟨rfl, rfl, hnone⟩ |
      ⟨kind, before, lexeme, rest, more, rfl, rfl, spaces, written, stops, hmore⟩
    · exact ⟨[], rfl, .nil (List.forall_mem_nil _), fun _ => rfl, hnone, absurd rfl⟩
    -- the white space behind the lexeme is that before the next token
    obtain ⟨between, hbetween, hrest⟩ := spaces_append_begun rest
    have hshorter : (begun rest).length < (before ++ (lexeme ++ rest)).length := by
      obtain ⟨c, chars, rfl, -⟩ := written.exists_cons
      have hlength := congrArg List.length hrest
      simp only [List.length_append, List.length_cons] at hlength ⊢
      omega
    obtain ⟨behind, hbehind, hrenders, hempty, hnone, hsolid⟩ := ih _ hshorter hmore rfl
    have hall : between ++ behind ++ left = rest := by rw [List.append_assoc, hbehind, hrest]
    have hstops : ∀ c ∈ (between ++ behind).head?, ¬ runsOn kind c := fun c hc =>
      stops c (by rw [← hall, List.head?_append, Option.mem_def.mp hc]; rfl)
    refine ⟨before ++ (lexeme ++ (between ++ behind)), ?_, .cons spaces written hstops (hrenders.space hbetween),
      (nomatch ·), hnone, fun _ => ?_⟩
    · simp only [← hall, List.append_assoc]
    · by_cases hmoreTokens : more = []
      · rw [hempty hmoreTokens, List.nil_append] at hbehind
        rw [hbehind]
        exact fun c hc => not_isSpace_of_begun hc
      · exact hsolid hmoreTokens

/-- A text is cut into the tokens with nothing left over if and only if it is a rendering of them, and if there are none
it is empty. -/
theorem tokensOf_eq_iff {tokens : List Token} {text : List Char} :
    tokensOf rules text = .ok (tokens, []) ↔ Renders tokens text ∧ (tokens = [] → text = []) := by
  constructor
  · intro h
    obtain ⟨before, htext, hrenders, hempty, -⟩ := exists_renders_of_tokensOf h
    rw [List.append_nil] at htext
    subst htext
    exact ⟨hrenders, hempty⟩
  · rintro ⟨h, hnil⟩
    cases h with
    | nil spaces => rw [hnil rfl, tokensOf, dif_pos rfl]
    | cons spaces written stops more => exact tokensOf_cons spaces written stops more.tokensOf_begun

end Precedence.Arithmetic
