import Precedence.Proofs.Arithmetic.Spacing
import Precedence.Proofs.Lexing.Reordering

/-!
# The priority of numbers

Of the patterns of the grammar only those of numbers and of symbols match the same texts (`entriesFor_cases`): a mark
begins no other lexeme, but an ASCII digit begins a number and a symbol.  So the rules may stand in any order in which
the one for numbers comes before the one for symbols, and in no other (`lex_order_iff`).
-/

namespace Precedence.Arithmetic

open Pattern

/-- The entries whose lexemes begin with the character. -/
def entriesFor (lexicon : List Entry) (c : Char) : List Entry := lexicon.filter (·.lexical.set.contains c)

/-- An entry matches a text if its lexeme begins behind the white space. -/
theorem isSome_match?_rule (entry : Entry) (text : List Char) :
    (entry.rule.pattern.match? text).isSome = (begun text).head?.any entry.lexical.set.contains := by
  rw [Entry.match?_rule]
  by_cases hzero : entry.lexical.length (begun text) = 0
  · rw [if_pos hzero]
    simpa using Lexical.length_eq_zero_iff.mp hzero
  · rw [if_neg hzero]
    simpa using mt Lexical.length_eq_zero_iff.mpr hzero

/-- The rules that match are those of the entries for the first character behind the white space. -/
theorem matching_lexicon (lexicon : List Entry) (text : List Char) :
    matching (lexicon.map Entry.rule) text =
      ((begun text).head?.elim [] (entriesFor lexicon)).map Entry.rule := by
  have hfilter : matching (lexicon.map Entry.rule) text =
      (lexicon.filter fun entry => (begun text).head?.any entry.lexical.set.contains).map Entry.rule := by
    simp only [matching, List.filter_map, Function.comp_def, isSome_match?_rule]
  rw [hfilter]
  cases (begun text).head? with
  | none => simp
  | some c => rfl

/-! ### Which rules match the same texts -/

theorem entriesFor_markEntries {c : Char} (h : c ∉ marks.map Prod.snd) : entriesFor markEntries c = [] := by
  rw [entriesFor, List.filter_eq_nil_iff]
  intro entry hentry hc
  simp only [markEntries, List.mem_cons, List.not_mem_nil, or_false] at hentry
  rcases hentry with rfl | rfl | rfl | rfl | rfl | rfl | rfl | rfl
  all_goals
    simp only [markEntry, contains_single, decide_eq_true_eq] at hc
    subst hc
    exact h (by decide)

/-- A character begins the lexemes of one entry at most, unless it is both a digit and a part of a word. -/
theorem entriesFor_cases (c : Char) :
    entriesFor lexicon c = [] ∨ (∃ entry, entriesFor lexicon c = [entry]) ∨
      entriesFor lexicon c = [numberEntry, symbolEntry] := by
  by_cases hmark : c ∈ marks.map Prod.snd
  · simp only [marks, List.map_cons, List.map_nil, List.mem_cons, List.not_mem_nil, or_false] at hmark
    rcases hmark with rfl | rfl | rfl | rfl | rfl | rfl | rfl | rfl
    all_goals exact .inr (.inl ⟨_, rfl⟩)
  · have hall : entriesFor lexicon c =
        entriesFor [numberEntry] c ++ (entriesFor markEntries c ++ entriesFor [symbolEntry] c) := by
      simp only [entriesFor, lexicon, ← List.filter_append]
      rfl
    rw [hall, entriesFor_markEntries hmark, List.nil_append]
    by_cases hdigit : numberEntry.lexical.set.contains c <;> by_cases hword : symbolEntry.lexical.set.contains c
    all_goals simp [entriesFor, hdigit, hword]

/-! ### Orders of the rules -/

variable {order : List Rule}

/-- The rules are told apart by their kinds. -/
theorem eq_rule_of_kind {rule : Rule} (h : rule ∈ rules) {entry : Entry} (hentry : entry ∈ [numberEntry, symbolEntry])
    (hkind : rule.kind = entry.kind) : rule = entry.rule := by
  have hall : ∀ entry ∈ [numberEntry, symbolEntry], ∀ other ∈ lexicon, other.kind = entry.kind →
      other.rule = entry.rule := by decide
  rw [rules_eq] at h
  obtain ⟨other, hother, rfl⟩ := List.mem_map.mp h
  exact hall entry hentry other hother hkind

/-- The rule for numbers comes before the one for symbols if their kinds do. -/
theorem sublist_of_kinds (h : order.Perm rules) (hkinds : [Kind.number, .symbol].Sublist (order.map Rule.kind)) :
    [numberEntry.rule, symbolEntry.rule].Sublist order := by
  obtain ⟨chosen, hchosen, hmap⟩ := List.sublist_map_iff.mp hkinds
  obtain ⟨first, others, rfl, hfirst, hothers⟩ := List.map_eq_cons_iff.mp hmap.symm
  obtain ⟨second, nothing, rfl, hsecond, hnothing⟩ := List.map_eq_cons_iff.mp hothers
  obtain rfl := List.map_eq_nil_iff.mp hnothing
  have hmem : ∀ rule ∈ [first, second], rule ∈ rules := fun rule hrule => h.subset (hchosen.subset hrule)
  have hnumber : first = numberEntry.rule := eq_rule_of_kind (hmem first (by simp)) (by simp) hfirst
  have hsymbol : second = symbolEntry.rule := eq_rule_of_kind (hmem second (by simp)) (by simp) hsecond
  rwa [hnumber, hsymbol] at hchosen

/-- The rules that match a text stand in their order wherever the rule for numbers comes before the one for symbols. -/
theorem matching_sublist (h : order.Perm rules) (hkinds : [Kind.number, .symbol].Sublist (order.map Rule.kind))
    (text : List Char) : (matching rules text).Sublist order := by
  have hsub : (matching rules text).Sublist rules := List.filter_sublist
  have hmatching := matching_lexicon lexicon text
  rw [← rules_eq] at hmatching
  cases hhead : (begun text).head? with
  | none =>
    rw [hmatching, hhead]
    exact List.nil_sublist _
  | some c =>
    rw [hhead] at hmatching
    rw [hmatching] at hsub ⊢
    rcases entriesFor_cases c with hnone | ⟨entry, hone⟩ | hboth
    · simp [hnone]
    · simp only [Option.elim, hone, List.map_cons, List.map_nil, List.singleton_sublist] at hsub ⊢
      exact h.symm.subset hsub
    · simp only [Option.elim, hboth]
      exact sublist_of_kinds h hkinds

/-! ### The order that is needed -/

theorem matching_seven : matching rules "7".toList = [numberEntry.rule, symbolEntry.rule] := by
  rw [rules_eq, matching_lexicon]
  rfl

theorem accept?_seven {rule : Rule} (h : rule ∈ [numberEntry.rule, symbolEntry.rule]) :
    rule.accept? "7".toList = .ok (some (⟨rule.kind, "7"⟩, 1)) := by
  simp only [List.mem_cons, List.not_mem_nil, or_false] at h
  rcases h with rfl | rfl
  all_goals
    rw [Entry.accept?_rule]
    rfl

/-- An order that cuts `7` as the grammar does has the rule for numbers before the one for symbols. -/
theorem kinds_sublist_of_lex (h : order.Perm rules) {lexed : Lexed} (hrules : lex rules "7" = .ok lexed)
    (horder : lex order "7" = .ok lexed) : [Kind.number, .symbol].Sublist (order.map Rule.kind) := by
  have hperm : (matching order "7".toList).Perm [numberEntry.rule, symbolEntry.rule] := matching_seven ▸ h.filter _
  have hsub : (matching order "7".toList).Sublist order := List.filter_sublist
  have hne : matching order "7".toList ≠ [] := fun hnil => by
    rw [hnil] at hperm
    cases hperm.length_eq
  obtain ⟨first, others, hmatching⟩ := List.exists_cons_of_ne_nil hne
  rw [hmatching] at hperm hsub
  have hmem : first ∈ [numberEntry.rule, symbolEntry.rule] := hperm.subset List.mem_cons_self
  -- both orders make the first token with the first rule that matches
  have hnumber := head?_tokens_of_lex hrules (by decide) matching_seven (accept?_seven (by simp))
  have hfirst := head?_tokens_of_lex horder (by decide) hmatching (accept?_seven hmem)
  have hkind : first.kind = numberEntry.rule.kind := by
    have htoken := hfirst.symm.trans hnumber
    simp only [Option.some.injEq, Token.mk.injEq] at htoken
    exact htoken.1
  have hrule : first = numberEntry.rule := by
    simp only [List.mem_cons, List.not_mem_nil, or_false] at hmem
    rcases hmem with rfl | rfl
    · rfl
    · exact absurd hkind (by decide)
  rw [hrule] at hperm hsub
  rw [List.perm_singleton.mp ((List.perm_cons _).mp hperm)] at hsub
  exact hsub.map Rule.kind

/-- The rules of the grammar may stand in any order with the rule for numbers before the one for symbols: then every
source is cut into the same tokens, with the same rest and the same problems.  In any other order some source is not. -/
theorem lex_order_iff (h : order.Perm rules) :
    (∀ source, ∃ lexed, lex rules source = .ok lexed ∧ lex order source = .ok lexed) ↔
      [Kind.number, .symbol].Sublist (order.map Rule.kind) := by
  constructor
  · intro hsame
    obtain ⟨lexed, hrules, horder⟩ := hsame "7"
    exact kinds_sublist_of_lex h hrules horder
  · intro hkinds source
    obtain ⟨lexed, hlex⟩ := exists_lex source
    exact ⟨lexed, hlex, (lex_eq_of_perm h (matching_sublist h hkinds) source).trans hlex⟩

/-- The rules with those for words first and those for marks from the last one to the first one. -/
def wordsFirst : List Rule := ([numberEntry, symbolEntry] ++ markEntries.reverse).map Entry.rule

theorem lex_order_iff_wordsFirst :
    wordsFirst.Perm rules ∧ ∀ source, ∃ lexed, lex rules source = .ok lexed ∧ lex wordsFirst source = .ok lexed := by
  have hentries : ([numberEntry, symbolEntry] ++ markEntries.reverse).Perm lexicon := by
    refine .cons numberEntry ?_
    have hmarks := (markEntries.reverse_perm.append_left [symbolEntry]).trans List.perm_append_comm
    exact hmarks
  have hperm : wordsFirst.Perm rules := rules_eq ▸ hentries.map Entry.rule
  exact ⟨hperm, (lex_order_iff hperm).mpr (by decide)⟩

end Precedence.Arithmetic
