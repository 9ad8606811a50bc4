import Precedence.Lexed
import Precedence.Proofs.Lexing.Padded

/-!
# Lexicons

A lexicon is a list of lexemes with the kinds of their tokens, each of which is made by a rule that takes the white
space around it.  Such rules do not disagree on where a token begins: behind the white space.  The first entry whose set
holds the character there makes it (`firstToken?_lexicon`).  So a text is cut into a token and what is behind it and
behind the white space after it (`tokensOf_lexicon`).
-/

namespace Precedence

open Pattern

/-- A lexeme, the text of its pattern, and the kind of its tokens. -/
structure Entry where
  lexical : Lexical
  source : String
  kind : Kind

/-- The entry for tokens that begin with the character. -/
def entryFor? (lexicon : List Entry) (c : Char) : Option Entry := lexicon.find? (·.lexical.set.contains c)

namespace Entry

/-- The rule that takes the lexeme and the white space around it. -/
def rule (entry : Entry) : Rule := ⟨⟨entry.source, entry.lexical.padded, 1⟩, entry.kind⟩

/-- The token that is made of the lexeme at the start of the text. -/
def token (entry : Entry) (text : List Char) : Token :=
  ⟨entry.kind, String.ofList (text.take (entry.lexical.length text))⟩

/-- An entry matches a text if its lexeme, behind the white space, is not empty. -/
theorem match?_rule (entry : Entry) (text : List Char) : entry.rule.pattern.match? text =
    if entry.lexical.length (begun text) = 0 then none else some (entry.lexical.found text) :=
  Lexical.match?_of_body rfl rfl text

/-- An entry accepts a text if its lexeme begins behind the white space. -/
theorem accept?_rule (entry : Entry) (text : List Char) :
    entry.rule.accept? text = .ok (if (begun text).head?.any entry.lexical.set.contains then
      some (entry.token (begun text), (entry.lexical.found text).length) else none) := by
  unfold Rule.accept? Rule.match?
  rw [match?_rule]
  by_cases hzero : entry.lexical.length (begun text) = 0
  · simp [hzero, Lexical.length_eq_zero_iff.mp hzero]
  · have hhead : (begun text).head?.any entry.lexical.set.contains := by
      simpa using mt Lexical.length_eq_zero_iff.mpr hzero
    have hlength : (entry.lexical.found text).length ≠ 0 := by
      simp only [Lexical.found]
      omega
    rw [if_neg hzero, if_pos hhead]
    simp only [show (entry.lexical.found text).isCrossed = false from rfl, hlength, if_false, Bool.false_eq_true]
    rfl

theorem drop_found (entry : Entry) (text : List Char) :
    text.drop (entry.lexical.found text).length = begun (entry.lexical.left text) := by
  simp [Lexical.found, begun, Lexical.left, Nat.add_assoc]

end Entry

variable (lexicon : List Entry)

/-- The first token of a text is made by the entry for the first character behind the white space. -/
theorem firstToken?_lexicon (text : List Char) :
    firstToken? text (lexicon.map Entry.rule) = .ok (((begun text).head?.bind (entryFor? lexicon)).map fun entry =>
      (entry.token (begun text), (entry.lexical.found text).length)) := by
  induction lexicon with
  | nil => cases (begun text).head? <;> rfl
  | cons entry lexicon ih =>
    rw [List.map_cons, firstToken?, Entry.accept?_rule]
    cases hhead : (begun text).head? with
    | none =>
      rw [hhead] at ih
      simpa using ih
    | some c =>
      rw [hhead] at ih
      by_cases hc : entry.lexical.set.contains c
      · simp [entryFor?, hc]
      · simpa [entryFor?, hc] using ih

/-- A text is cut into its first token and what is behind that. -/
theorem tokensOf_lexicon {text : List Char} (hne : text ≠ []) :
    tokensOf (lexicon.map Entry.rule) text = match (begun text).head?.bind (entryFor? lexicon) with
      | none => .ok ([], text)
      | some entry => match tokensOf (lexicon.map Entry.rule) (begun (entry.lexical.left text)) with
        | .error error => .error error
        | .ok (tokens, leftover) => .ok (entry.token (begun text) :: tokens, leftover) := by
  rw [tokensOf, dif_neg hne]
  have hfirst := firstToken?_lexicon lexicon text
  cases hentry : (begun text).head?.bind (entryFor? lexicon) with
  | none =>
    rw [hentry] at hfirst
    split <;> simp_all
  | some entry =>
    rw [hentry] at hfirst
    simp only [← Entry.drop_found]
    split
    · next h => cases h.symm.trans hfirst
    · next h => cases h.symm.trans hfirst
    · next h =>
      cases h.symm.trans hfirst
      rfl

end Precedence
