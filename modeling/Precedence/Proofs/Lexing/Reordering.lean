import Precedence.Proofs.Lexing.Segmentation

/-!
# Rules in another order

At a place only the rules that match there count, and their order (`firstToken?_matching`).  So two lists of the same
rules cut every text alike if rules that match the same text stand in the same order in both (`lex_eq_of_perm`).
-/

namespace Precedence

/-- The rules that match at the start of the text, in order. -/
def matching (rules : List Rule) (text : List Char) : List Rule :=
  rules.filter fun rule => (rule.pattern.match? text).isSome

section

variable {order rules : List Rule} {text : List Char}

/-- A rule that matches decides about the token, whatever rules follow. -/
theorem firstToken?_cons_of_some {rule : Rule} {found : Pattern.Match} (h : rule.pattern.match? text = some found)
    (rules : List Rule) : firstToken? text (rule :: rules) = (rule.accept? text) := by
  have hmatch := Rule.match?_of_some h
  simp only [firstToken?, Rule.accept?, hmatch]
  cases rule.checked text found with
  | error error => rfl
  | ok usable => rfl

theorem firstToken?_matching (rules : List Rule) (text : List Char) :
    firstToken? text (matching rules text) = firstToken? text rules := by
  induction rules with
  | nil => rfl
  | cons rule rules ih =>
    cases hmatch : rule.pattern.match? text with
    | none =>
      have hskip : matching (rule :: rules) text = matching rules text := by
        simp [matching, hmatch]
      rw [hskip, ih]
      simp only [firstToken?, Rule.accept?, Rule.match?_of_none hmatch]
    | some found =>
      have hkeep : matching (rule :: rules) text = rule :: matching rules text := by
        simp [matching, hmatch]
      rw [hkeep, firstToken?_cons_of_some hmatch, firstToken?_cons_of_some hmatch]

/-- Texts are cut alike by lists of rules that have the same rules matching at every place. -/
theorem tokensOf_congr (h : ∀ text, matching order text = matching rules text) (text : List Char) :
    tokensOf order text = tokensOf rules text := by
  induction hlength : text.length using Nat.strongRecOn generalizing text with
  | ind length ih =>
    by_cases hne : text = []
    · rw [hne, tokensOf, tokensOf, dif_pos rfl, dif_pos rfl]
    have hfirst : firstToken? text order = firstToken? text rules := by
      rw [← firstToken?_matching order, h, firstToken?_matching]
    rw [tokensOf_of_ne_nil hne, tokensOf_of_ne_nil hne, hfirst]
    rcases htoken : firstToken? text rules with error | _ | ⟨token, count⟩
    · rfl
    · rfl
    · have hpos : 0 < count := length_pos_of_firstToken? htoken
      have htext : 0 < text.length := List.length_pos_iff.mpr hne
      have hshorter : (text.drop count).length < length := by
        rw [List.length_drop]
        omega
      simp only [ih _ hshorter _ rfl]

theorem lex_congr (hlength : order.length = rules.length)
    (h : ∀ text, matching order text = matching rules text) (source : String) :
    lex order source = lex rules source := by
  have hreport (left : List Char) : untokenizable order left = untokenizable rules left := by
    simp only [untokenizable, hlength]
  simp only [lex, tokensOf_congr h, hreport]

/-- The same rules match if those that do stand in their order in both lists. -/
theorem matching_eq_of_perm (h : order.Perm rules) (hkeeps : (matching rules text).Sublist order) :
    matching order text = matching rules text := by
  have hperm : (matching order text).Perm (matching rules text) := h.filter _
  have hsub : (matching rules text).Sublist (matching order text) := by
    have hfilter := hkeeps.filter fun rule => (rule.pattern.match? text).isSome
    simpa only [matching, List.filter_filter, Bool.and_self] using hfilter
  exact (hsub.eq_of_length hperm.length_eq.symm).symm

/-- Rules in another order cut every source alike, if those that match the same text stand in the same order. -/
theorem lex_eq_of_perm (h : order.Perm rules) (hkeeps : ∀ text, (matching rules text).Sublist order)
    (source : String) :
    lex order source = lex rules source :=
  lex_congr h.length_eq (fun text => matching_eq_of_perm h (hkeeps text)) source

/-- The first token of a source is made by the first of the rules that match. -/
theorem head?_tokens_of_lex {source : String} {lexed : Lexed} {rule : Rule} {others : List Rule} {token : Token}
    {count : Nat} (h : lex rules source = .ok lexed) (hne : source.toList ≠ [])
    (hmatching : matching rules source.toList = rule :: others)
    (haccept : rule.accept? source.toList = .ok (some (token, count))) : lexed.tokens.head? = some token := by
  have hfirst : firstToken? source.toList rules = .ok (some (token, count)) := by
    rw [← firstToken?_matching, hmatching, firstToken?, haccept]
  rw [lex, tokensOf_of_ne_nil hne, hfirst] at h
  dsimp only at h
  cases hrest : tokensOf rules (source.toList.drop count) with
  | error error =>
    rw [hrest] at h
    cases h
  | ok cut =>
    rw [hrest] at h
    cases h
    rfl

end

end Precedence
