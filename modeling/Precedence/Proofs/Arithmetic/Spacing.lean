import Mathlib.Data.List.Chain
import Precedence.Proofs.Arithmetic.Rendering
import Precedence.Proofs.Lexing.Segmentation
import Precedence.Proofs.Number.Decimal

/-!
# White space between tokens

A text that is cut into tokens without a problem consists of their values, one after the other, with white space in
front, between and behind.  White space may be missing, except where two tokens would run together: between two numbers,
between two symbols, and between a symbol and a number that begins with an ASCII digit (`RunTogether`).  A text of
nothing but white space is no text of no tokens, since every pattern takes white space only around a token.

`lex_iff_laidOut` says this of the tokens that are found, in both directions, and that no text makes a match that
cannot be used.  The renderings of `Precedence.Proofs.Arithmetic.Rendering` say the same by the rule for a single
lexeme: it does not run on into what follows it (`renders_iff`).
-/

namespace Precedence.Arithmetic

open Pattern

/-! ### Values of tokens -/

/-- The value of the token is one that tokens of its kind are made with. -/
inductive Spelled : Token → Prop
  /-- One digit or more, of any script. -/
  | number {value : String} (nonempty : value ≠ "") (digits : ∀ c ∈ value.toList, Text.isDigit c) :
      Spelled ⟨.number, value⟩
  /-- An ASCII letter or an underscore, and then letters, underscores and ASCII digits. -/
  | symbol {c : Char} {chars : List Char} (first : c.isAlpha ∨ c = '_') (more : ∀ d ∈ chars, isWordChar d) :
      Spelled ⟨.symbol, String.ofList (c :: chars)⟩
  /-- The one character that the kind stands for. -/
  | mark {kind : Kind} {c : Char} (h : (kind, c) ∈ marks) : Spelled ⟨kind, String.ofList [c]⟩

/-- The tokens would be cut in another way without white space between them. -/
def RunTogether (token next : Token) : Prop :=
  token.kind = .number ∧ next.kind = .number ∨ token.kind = .symbol ∧ next.kind = .symbol ∨
    token.kind = .symbol ∧ next.kind = .number ∧ next.value.toList.head?.any Char.isDigit

theorem toNat_of_isDigit {c : Char} (h : Text.isDigit c) : 48 ≤ c.toNat ∧ c.toNat ≤ 57 ∨ 122 < c.toNat := by
  have hranges : ∀ r ∈ Text.digitRanges, r = (48, 57) ∨ 122 < r.1 := by decide
  obtain ⟨r, hr, hlo, hhi⟩ := exists_of_contains h
  rcases hranges r hr with rfl | hbeyond
  · exact .inl ⟨hlo, hhi⟩
  · exact .inr (by omega)

/-- Among the digits, those of ASCII are the ones that may be part of a symbol. -/
theorem isWordChar_of_isDigit {c : Char} (h : Text.isDigit c) : isWordChar c = c.isDigit := by
  rw [Bool.eq_iff_iff, isWordChar_iff, isDigit_iff]
  have hranges := toNat_of_isDigit h
  omega

/-- A symbol begins with a character of symbols that is no digit: a letter or an underscore. -/
theorem isWordChar_and_not_isDigit_iff {c : Char} : isWordChar c ∧ ¬ Text.isDigit c ↔ c.isAlpha ∨ c = '_' := by
  have hletter : c.isAlpha ↔ 65 ≤ c.toNat ∧ c.toNat ≤ 90 ∨ 97 ≤ c.toNat ∧ c.toNat ≤ 122 := by
    show (c.isUpper || c.isLower) = true ↔ _
    rw [Bool.or_eq_true, isUpper_iff, isLower_iff]
  have hunderscore : c = '_' ↔ c.toNat = 95 := Char.toNat_inj.symm
  rw [isWordChar_iff, hletter, hunderscore]
  constructor
  · rintro ⟨hword, hdigit⟩
    have hascii : ¬ c.isDigit := fun h => hdigit (Text.isDigit_of_ascii h)
    rw [isDigit_iff] at hascii
    omega
  · intro h
    refine ⟨by omega, fun hdigit => ?_⟩
    have hranges := toNat_of_isDigit hdigit
    omega

/-- A value is what tokens of the kind are made with exactly if its characters are a lexeme. -/
theorem spelled_iff {token : Token} : Spelled token ↔ Lexeme token.kind token.value.toList := by
  constructor
  · rintro (⟨nonempty, digits⟩ | ⟨first, more⟩ | ⟨h⟩)
    · exact .number (by simpa [isNumeral] using ⟨nonempty, digits⟩)
    · rw [String.toList_ofList]
      exact .symbol (isWordChar_and_not_isDigit_iff.mpr first) more
    · rw [String.toList_ofList]
      exact .mark h
  · rcases token with ⟨kind, value⟩
    intro h
    generalize hchars : value.toList = chars at h
    have hvalue : value = String.ofList chars := by rw [← hchars, String.ofList_toList]
    subst hvalue
    cases h with
    | number digits =>
      simp only [isNumeral, Bool.and_eq_true, Bool.not_eq_true', List.isEmpty_eq_false_iff, List.all_eq_true] at digits
      exact .number (by simpa using digits.1) (by simpa using digits.2)
    | symbol first more => exact .symbol (isWordChar_and_not_isDigit_iff.mp first) more
    | mark h => exact .mark h

/-- A token runs on into the first character of the next value exactly if the two run together. -/
theorem runsOn_iff_runTogether {token next : Token} (h : Spelled next) {c : Char} (hc : c ∈ next.value.toList.head?) :
    runsOn token.kind c ↔ RunTogether token next := by
  have hnumber : Kind.number ≠ .symbol := by decide
  cases h with
  | @number value nonempty digits =>
    have hdigit : Text.isDigit c := digits c (List.mem_of_mem_head? hc)
    have hhead : value.toList.head? = some c := hc
    simp [runsOn, RunTogether, hdigit, isWordChar_of_isDigit hdigit, hhead, hnumber]
  | @symbol d chars first more =>
    obtain rfl : d = c := by simpa using hc
    obtain ⟨hword, hdigit⟩ := isWordChar_and_not_isDigit_iff.mpr first
    simp [runsOn, RunTogether, hdigit, hword, hnumber.symm]
  | @mark kind d hmark =>
    obtain rfl : d = c := by simpa using hc
    have hplain :
        ∀ mark ∈ marks, ¬ Text.isDigit mark.2 ∧ ¬ isWordChar mark.2 ∧ mark.1 ≠ .number ∧ mark.1 ≠ .symbol := by
      decide
    obtain ⟨hdigit, hword, hkindNumber, hkindSymbol⟩ := hplain _ hmark
    simp [runsOn, RunTogether, hdigit, hword, hkindNumber, hkindSymbol]

/-! ### Texts of tokens -/

/-- A token with the white space behind it. -/
structure SpacedToken where
  token : Token
  gap : List Char

/-- The characters of the value and of the white space behind it. -/
def SpacedToken.chars (spaced : SpacedToken) : List Char := spaced.token.value.toList ++ spaced.gap

/-- The text is laid out as the values of the tokens, with white space in front of them and behind each of them, and
with white space between two tokens that would run together. -/
structure LaidOut (before : List Char) (spaced : List SpacedToken) (text : List Char) : Prop where
  text_eq : text = before ++ spaced.flatMap SpacedToken.chars
  spelled : ∀ s ∈ spaced, Spelled s.token
  before_spaces : ∀ c ∈ before, Text.isSpace c
  gap_spaces : ∀ s ∈ spaced, ∀ c ∈ s.gap, Text.isSpace c
  apart : spaced.IsChain fun s next => RunTogether s.token next.token → s.gap ≠ []

/-- No token runs on into white space. -/
theorem not_runsOn_of_isSpace {kind : Kind} {c : Char} (h : Text.isSpace c) : ¬ runsOn kind c := by
  simp [runsOn, not_isDigit_of_isSpace h, not_isWordChar_of_isSpace h]

theorem Spelled.exists_head {token : Token} (h : Spelled token) : ∃ c, c ∈ token.value.toList.head? := by
  obtain ⟨c, chars, hchars, -⟩ := (spelled_iff.mp h).exists_cons
  exact ⟨c, by simp [hchars]⟩

/-- A token runs on into what is behind it exactly if the gap is missing that the next token needs. -/
theorem stops_iff {s : SpacedToken} {more : List SpacedToken} (spelled : ∀ next ∈ more, Spelled next.token)
    (spaces : ∀ c ∈ s.gap, Text.isSpace c) :
    (∀ c ∈ (s.gap ++ more.flatMap SpacedToken.chars).head?, ¬ runsOn s.token.kind c) ↔
      ∀ next ∈ more.head?, RunTogether s.token next.token → s.gap ≠ [] := by
  cases hgap : s.gap with
  | cons d gap =>
    have hspace : ¬ runsOn s.token.kind d := not_runsOn_of_isSpace (spaces d (by simp [hgap]))
    simpa using hspace
  | nil =>
    cases more with
    | nil => simp
    | cons next more =>
      obtain ⟨c, hc⟩ := (spelled next List.mem_cons_self).exists_head
      have hhead : (next.token.value.toList).head? = some c := hc
      have hiff : runsOn s.token.kind c ↔ RunTogether s.token next.token :=
        runsOn_iff_runTogether (spelled next List.mem_cons_self) hc
      simp [SpacedToken.chars, List.head?_append, hhead, ← hiff]

theorem Renders.exists_laidOut {tokens : List Token} {text : List Char} (h : Renders tokens text) :
    ∃ before spaced, spaced.map SpacedToken.token = tokens ∧ LaidOut before spaced text := by
  induction h with
  | @nil after spaces => exact ⟨after, [], rfl, by simp, by simp, spaces, by simp, .nil⟩
  | @cons kind before lexeme rest tokens spaces written stops more ih =>
    obtain ⟨gap, spaced, rfl, laid⟩ := ih
    -- the white space in front of the rest is the gap behind the token
    let s : SpacedToken := ⟨⟨kind, String.ofList lexeme⟩, gap⟩
    have hspelled : Spelled s.token := spelled_iff.mpr (by simpa [s] using written)
    have hstops : ∀ c ∈ (s.gap ++ spaced.flatMap SpacedToken.chars).head?, ¬ runsOn s.token.kind c := by
      rw [← laid.text_eq]
      exact stops
    have hapart := (stops_iff laid.spelled laid.before_spaces).mp hstops
    refine ⟨before, s :: spaced, rfl, ?_, ?_, spaces, ?_, List.isChain_cons.mpr ⟨hapart, laid.apart⟩⟩
    · rw [laid.text_eq]
      simp [s, SpacedToken.chars]
    · exact List.forall_mem_cons.mpr ⟨hspelled, laid.spelled⟩
    · exact List.forall_mem_cons.mpr ⟨laid.before_spaces, laid.gap_spaces⟩

theorem LaidOut.renders {before : List Char} {spaced : List SpacedToken} {text : List Char}
    (h : LaidOut before spaced text) : Renders (spaced.map SpacedToken.token) text := by
  induction spaced generalizing before text with
  | nil =>
    rw [h.text_eq]
    exact .nil (by simpa using h.before_spaces)
  | cons s more ih =>
    obtain ⟨hspelled, hmore⟩ := List.forall_mem_cons.mp h.spelled
    obtain ⟨hgap, hgaps⟩ := List.forall_mem_cons.mp h.gap_spaces
    obtain ⟨hapart, hchain⟩ := List.isChain_cons.mp h.apart
    have hrest : Renders (more.map SpacedToken.token) (s.gap ++ more.flatMap SpacedToken.chars) :=
      ih ⟨rfl, hmore, hgap, hgaps, hchain⟩
    have hcons := Renders.cons h.before_spaces (spelled_iff.mp hspelled) ((stops_iff hmore hgap).mpr hapart) hrest
    rw [String.ofList_toList] at hcons
    rw [h.text_eq]
    simpa [SpacedToken.chars] using hcons

/-- The renderings of tokens are the texts that are laid out as the tokens. -/
theorem renders_iff {tokens : List Token} {text : List Char} :
    Renders tokens text ↔ ∃ before spaced, spaced.map SpacedToken.token = tokens ∧ LaidOut before spaced text := by
  constructor
  · intro h
    exact h.exists_laidOut
  · rintro ⟨before, spaced, rfl, h⟩
    exact h.renders

/-! ### Cutting a text -/

/-- Every text is cut into tokens: no rule makes a match that cannot be used. -/
theorem exists_lex (source : String) : ∃ lexed, lex rules source = .ok lexed := by
  cases h : lex rules source with
  | ok lexed => exact ⟨lexed, rfl⟩
  | error error =>
    obtain ⟨chunks, left, rule, found, -, -, hfirst, herror⟩ := lex_eq_error_iff.mp h
    have htoken := hfirst.firstToken?_eq
    rw [herror, rules_eq, firstToken?_lexicon] at htoken
    cases htoken

/-- The tokens of a text are found without a problem exactly if nothing is left of it behind them. -/
theorem lex_eq_iff_tokensOf {source : String} {tokens : List Token} :
    (∃ lexed, lex rules source = .ok lexed ∧ lexed.diagnostics = [] ∧ lexed.tokens = tokens ++ [.endOfInput]) ↔
      tokensOf rules source.toList = .ok (tokens, []) := by
  unfold lex
  cases tokensOf rules source.toList with
  | error error => simp
  | ok cut =>
    obtain ⟨found, left⟩ := cut
    cases left with
    | nil => simp
    | cons c left => simp

/-- A text is cut into tokens without a problem exactly if it is laid out as these tokens, and if it is empty where
there are none.  No text makes a match that cannot be used. -/
theorem lex_iff_laidOut (source : String) :
    (∃ lexed, lex rules source = .ok lexed) ∧
      ∀ tokens, (∃ lexed, lex rules source = .ok lexed ∧ lexed.diagnostics = [] ∧
          lexed.tokens = tokens ++ [.endOfInput]) ↔
        (∃ before spaced, spaced.map SpacedToken.token = tokens ∧ LaidOut before spaced source.toList) ∧
          (tokens = [] → source = "") := by
  refine ⟨exists_lex source, fun tokens => ?_⟩
  rw [lex_eq_iff_tokensOf, tokensOf_eq_iff, renders_iff, String.toList_eq_nil_iff]

end Precedence.Arithmetic
