import Precedence.Lexed
import Precedence.Proofs.Pattern.Bounds

/-!
# Segmentations

Cutting a text into tokens is a segmentation: at each place the chunk that the first matching rule matches is taken,
and the place moves behind it (`Segmentation`).  A text can be cut until nothing is left, no rule matches, or the match
of the first rule that does cannot be used (`exists_segmentation`).  The tokens of the text are those of the chunks,
followed by what the end of the segmentation gives (`Segmentation.tokensOf_eq`).

Both together say which results and which errors there are (`lex_segmentation`).
-/

namespace Precedence

/-! ### The first rule that matches -/

/-- No rule matches at the start of the text. -/
def Unmatched (rules : List Rule) (text : List Char) : Prop := ∀ rule ∈ rules, rule.pattern.match? text = none

/-- The rule is the first one that matches at the start of the text, and this is its match. -/
def FirstMatch (rules : List Rule) (text : List Char) (rule : Rule) (found : Pattern.Match) : Prop :=
  ∃ earlier later, rules = earlier ++ rule :: later ∧ Unmatched earlier text ∧ rule.pattern.match? text = some found

/-- The match at the start of the text, if it can be used. -/
def Rule.checked (rule : Rule) (text : List Char) (found : Pattern.Match) : Except MatchError Pattern.Match :=
  if found.isCrossed then .error .crossedGroup
  else if found.length = 0 then .error (.empty rule.quoted (String.ofList (text.take shownLength)))
  else .ok found

section

variable {rules : List Rule} {rule : Rule} {text : List Char} {found : Pattern.Match}

theorem unmatched_or_exists_firstMatch (rules : List Rule) (text : List Char) :
    Unmatched rules text ∨ ∃ rule found, FirstMatch rules text rule found := by
  induction rules with
  | nil => exact .inl fun _ h => nomatch h
  | cons rule rules ih =>
    cases hmatch : rule.pattern.match? text with
    | some found => exact .inr ⟨rule, found, [], rules, rfl, (fun _ h => nomatch h), hmatch⟩
    | none =>
      rcases ih with hnone | ⟨first, found, earlier, later, rfl, hearlier, hfirst⟩
      · exact .inl (List.forall_mem_cons.mpr ⟨hmatch, hnone⟩)
      · exact .inr ⟨first, found, rule :: earlier, later, rfl, List.forall_mem_cons.mpr ⟨hmatch, hearlier⟩, hfirst⟩

theorem Rule.match?_of_none (h : rule.pattern.match? text = none) : rule.match? text = .ok none := by
  simp only [Rule.match?, h]

theorem Rule.match?_of_some (h : rule.pattern.match? text = some found) :
    rule.match? text = (rule.checked text found).map some := by
  unfold Rule.match? Rule.checked
  rw [h]
  dsimp only
  split
  · rfl
  · split
    · rfl
    · rfl

theorem Rule.checked_eq_ok_iff {usable : Pattern.Match} : rule.checked text found = .ok usable ↔
    found.isCrossed = false ∧ 0 < found.length ∧ found = usable := by
  unfold Rule.checked
  cases found.isCrossed with
  | true => simp
  | false => by_cases hzero : found.length = 0 <;> simp [hzero, Nat.pos_iff_ne_zero]

theorem Rule.checked_eq_empty_iff {quoted shown : String} : rule.checked text found = .error (.empty quoted shown) ↔
    found.isCrossed = false ∧ found.length = 0 ∧ rule.quoted = quoted ∧
      String.ofList (text.take shownLength) = shown := by
  unfold Rule.checked
  cases found.isCrossed with
  | true => simp
  | false => by_cases hzero : found.length = 0 <;> simp [hzero]

theorem Rule.checked_eq_crossedGroup_iff :
    rule.checked text found = .error .crossedGroup ↔ found.isCrossed = true := by
  unfold Rule.checked
  cases found.isCrossed with
  | true => simp
  | false => by_cases hzero : found.length = 0 <;> simp [hzero]

theorem Unmatched.firstToken?_eq (h : Unmatched rules text) : firstToken? text rules = .ok none := by
  induction rules with
  | nil => rfl
  | cons rule rules ih =>
    obtain ⟨hrule, hrules⟩ := List.forall_mem_cons.mp h
    simp only [firstToken?, Rule.accept?, Rule.match?_of_none hrule, ih hrules]

namespace FirstMatch

theorem match?_eq (h : FirstMatch rules text rule found) : rule.pattern.match? text = some found := by
  obtain ⟨_, _, _, _, hmatch⟩ := h
  exact hmatch

theorem rule_mem (h : FirstMatch rules text rule found) : rule ∈ rules := by
  obtain ⟨earlier, later, rfl, -, -⟩ := h
  exact List.mem_append_right earlier List.mem_cons_self

/-- Only the first rule that matches counts for the token at the start of a text. -/
theorem firstToken?_eq (h : FirstMatch rules text rule found) :
    firstToken? text rules = (rule.checked text found).map fun found => some (rule.token found, found.length) := by
  obtain ⟨earlier, later, rfl, hearlier, hmatch⟩ := h
  induction earlier with
  | nil =>
    rw [List.nil_append, firstToken?, Rule.accept?, Rule.match?_of_some hmatch]
    cases rule.checked text found <;> rfl
  | cons other earlier ih =>
    obtain ⟨hother, hearlier⟩ := List.forall_mem_cons.mp hearlier
    simp only [List.cons_append, firstToken?, Rule.accept?, Rule.match?_of_none hother]
    exact ih hearlier

end FirstMatch

end

/-! ### Chunks -/

/-- A rule with its match at the start of what remains of a text. -/
structure Chunk where
  rule : Rule
  found : Pattern.Match
  /-- The text from the start of the match on. -/
  remaining : List Char

namespace Chunk

/-- What is matched. -/
def text (chunk : Chunk) : List Char := chunk.remaining.take chunk.found.length

/-- What is behind the match. -/
def rest (chunk : Chunk) : List Char := chunk.remaining.drop chunk.found.length

/-- The value of the token that the chunk makes: what the first group has captured, if it took part. -/
def value (chunk : Chunk) : String :=
  match chunk.found.firstGroup with
  | some capture => String.ofList ((chunk.remaining.drop capture.start).take capture.length)
  | none => Rule.emptyValue

/-- The token that the chunk makes. -/
def token (chunk : Chunk) : Token := ⟨chunk.rule.kind, chunk.value⟩

/-- The chunk is taken by the first rule that matches, and moves on. -/
structure IsFirst (rules : List Rule) (chunk : Chunk) : Prop where
  firstMatch : FirstMatch rules chunk.remaining chunk.rule chunk.found
  notCrossed : chunk.found.isCrossed = false
  length_pos : 0 < chunk.found.length

variable {rules : List Rule} {chunk : Chunk}

theorem text_append_rest : chunk.text ++ chunk.rest = chunk.remaining := List.take_append_drop ..

/-- The value is a piece of what remains, unless the first group took no part. -/
theorem value_cases (chunk : Chunk) : chunk.value = Rule.emptyValue ∨ chunk.value.toList <:+: chunk.remaining := by
  unfold value
  split
  · next capture _ =>
    refine .inr ?_
    rw [String.toList_ofList]
    exact (List.take_prefix _ _).isInfix.trans (List.drop_suffix _ _).isInfix
  · exact .inl rfl

namespace IsFirst

theorem length_le (h : chunk.IsFirst rules) : chunk.found.length ≤ chunk.remaining.length :=
  (Pattern.match?_within h.firstMatch.match?_eq).1

theorem length_text (h : chunk.IsFirst rules) : chunk.text.length = chunk.found.length :=
  List.length_take_of_le h.length_le

theorem text_ne_nil (h : chunk.IsFirst rules) : chunk.text ≠ [] :=
  List.ne_nil_of_length_pos (h.length_text ▸ h.length_pos)

theorem remaining_ne_nil (h : chunk.IsFirst rules) : chunk.remaining ≠ [] :=
  List.ne_nil_of_length_pos (Nat.lt_of_lt_of_le h.length_pos h.length_le)

theorem length_rest_lt (h : chunk.IsFirst rules) : chunk.rest.length < chunk.remaining.length := by
  have hpos := h.length_pos
  have hle := h.length_le
  simp only [rest, List.length_drop]
  omega

theorem checked_eq (h : chunk.IsFirst rules) : chunk.rule.checked chunk.remaining chunk.found = .ok chunk.found :=
  Rule.checked_eq_ok_iff.mpr ⟨h.notCrossed, h.length_pos, rfl⟩

/-- The token of a match is made of the text that is matched. -/
theorem ruleToken_eq (h : chunk.IsFirst rules) : chunk.rule.token chunk.found = chunk.token := by
  have hwithin := (Pattern.match?_within h.firstMatch.match?_eq).2
  unfold Rule.token token value
  cases hgroup : chunk.found.firstGroup with
  | none => rfl
  | some capture => simp only [Pattern.Capture.text, (hwithin capture hgroup).1]

end IsFirst

end Chunk

/-! ### Segmentations -/

/-- The text is cut into the chunks, one after the other, and the rest is left. -/
inductive Segmentation (rules : List Rule) : (text : List Char) → List Chunk → (left : List Char) → Prop
  | stop (text : List Char) : Segmentation rules text [] text
  | cut {chunk : Chunk} {chunks : List Chunk} {left : List Char} (hfirst : chunk.IsFirst rules)
    (hrest : Segmentation rules chunk.rest chunks left) : Segmentation rules chunk.remaining (chunk :: chunks) left

/-- How a segmentation ends: no rule matches what is left, if anything is, or the first match cannot be used. -/
inductive EndsAt (rules : List Rule) (left : List Char) : Prop
  | unmatched (hnone : left ≠ [] → Unmatched rules left)
  | unusable {rule : Rule} {found : Pattern.Match} {error : MatchError} (hne : left ≠ [])
    (hfirst : FirstMatch rules left rule found) (herror : rule.checked left found = .error error)

/-- Every text is cut into chunks up to an end. -/
theorem exists_segmentation (rules : List Rule) (text : List Char) :
    ∃ chunks left, Segmentation rules text chunks left ∧ EndsAt rules left := by
  induction hlength : text.length using Nat.strongRecOn generalizing text with
  | ind length ih =>
    by_cases hne : text = []
    · exact ⟨[], text, .stop text, .unmatched (absurd hne)⟩
    rcases unmatched_or_exists_firstMatch rules text with hnone | ⟨rule, found, hfirst⟩
    · exact ⟨[], text, .stop text, .unmatched fun _ => hnone⟩
    cases hchecked : rule.checked text found with
    | error error => exact ⟨[], text, .stop text, .unusable hne hfirst hchecked⟩
    | ok usable =>
      obtain ⟨hcrossed, hpos, -⟩ := Rule.checked_eq_ok_iff.mp hchecked
      have hchunk : Chunk.IsFirst rules ⟨rule, found, text⟩ := ⟨hfirst, hcrossed, hpos⟩
      obtain ⟨chunks, left, hcut, hend⟩ := ih _ (hlength ▸ hchunk.length_rest_lt) _ rfl
      exact ⟨_, left, .cut hchunk hcut, hend⟩

namespace Segmentation

variable {rules : List Rule} {text : List Char} {chunks : List Chunk} {left : List Char}

/-- The chunks and what is left make up the text. -/
theorem flatMap_text_append (h : Segmentation rules text chunks left) : chunks.flatMap Chunk.text ++ left = text := by
  induction h with
  | stop => rfl
  | cut _ _ ih => rw [List.flatMap_cons, List.append_assoc, ih, Chunk.text_append_rest]

theorem length_left_le (h : Segmentation rules text chunks left) : left.length ≤ text.length := by
  rw [← h.flatMap_text_append, List.length_append]
  exact Nat.le_add_left ..

theorem isFirst_of_mem (h : Segmentation rules text chunks left) : ∀ chunk ∈ chunks, chunk.IsFirst rules := by
  induction h with
  | stop => exact fun _ h => nomatch h
  | cut hfirst _ ih => exact List.forall_mem_cons.mpr ⟨hfirst, ih⟩

/-- What remains at each of the chunks is an end of the text. -/
theorem remaining_suffix (h : Segmentation rules text chunks left) : ∀ chunk ∈ chunks, chunk.remaining <:+ text := by
  induction h with
  | stop => exact fun _ h => nomatch h
  | cut _ _ ih =>
    exact List.forall_mem_cons.mpr ⟨List.suffix_rfl, fun chunk hmem => (ih chunk hmem).trans (List.drop_suffix _ _)⟩

/-- There are no more chunks than characters. -/
theorem length_le (h : Segmentation rules text chunks left) : chunks.length ≤ text.length := by
  induction h with
  | stop => exact Nat.zero_le _
  | cut hfirst _ ih => exact Nat.lt_of_le_of_lt ih hfirst.length_rest_lt

end Segmentation

/-! ### Tokens of a segmentation -/

section

variable {rules : List Rule} {text : List Char}

theorem tokensOf_of_ne_nil (hne : text ≠ []) : tokensOf rules text = match firstToken? text rules with
    | .error error => .error error
    | .ok none => .ok ([], text)
    | .ok (some (token, length)) =>
      (tokensOf rules (text.drop length)).map fun (tokens, left) => (token :: tokens, left) := by
  rw [tokensOf, dif_neg hne]
  split
  · next h => rw [h]
  · next h => rw [h]
  · next h =>
    rw [h]
    dsimp only
    split
    · next hrest => rw [hrest]; rfl
    · next hrest => rw [hrest]; rfl

theorem tokensOf_of_unmatched (hnone : text ≠ [] → Unmatched rules text) : tokensOf rules text = .ok ([], text) := by
  by_cases hne : text = []
  · rw [tokensOf, dif_pos hne, hne]
  · rw [tokensOf_of_ne_nil hne, (hnone hne).firstToken?_eq]

theorem tokensOf_of_error {rule : Rule} {found : Pattern.Match} {error : MatchError} (hne : text ≠ [])
    (hfirst : FirstMatch rules text rule found) (herror : rule.checked text found = .error error) :
    tokensOf rules text = .error error := by
  rw [tokensOf_of_ne_nil hne, hfirst.firstToken?_eq, herror]
  rfl

theorem Chunk.IsFirst.tokensOf_eq {chunk : Chunk} (h : chunk.IsFirst rules) : tokensOf rules chunk.remaining =
    (tokensOf rules chunk.rest).map fun (tokens, left) => (chunk.token :: tokens, left) := by
  rw [tokensOf_of_ne_nil h.remaining_ne_nil, h.firstMatch.firstToken?_eq, h.checked_eq, ← h.ruleToken_eq]
  rfl

/-- The tokens of a text are those of the chunks and those of what is left. -/
theorem Segmentation.tokensOf_eq {chunks : List Chunk} {left : List Char} (h : Segmentation rules text chunks left) :
    tokensOf rules text = (tokensOf rules left).map fun (tokens, left) => (chunks.map Chunk.token ++ tokens, left) := by
  induction h with
  | stop => cases tokensOf rules _ <;> rfl
  | cut hfirst _ ih =>
    rw [hfirst.tokensOf_eq, ih]
    cases tokensOf rules _ <;> rfl

/-- The tokens of a text are made by the chunks of a segmentation. -/
theorem exists_chunks_of_tokensOf {tokens : List Token} {left : List Char}
    (h : tokensOf rules text = .ok (tokens, left)) :
    ∃ chunks, Segmentation rules text chunks left ∧ tokens = chunks.map Chunk.token := by
  obtain ⟨chunks, rest, hcut, hend⟩ := exists_segmentation rules text
  rw [hcut.tokensOf_eq] at h
  cases hend with
  | unmatched hnone =>
    rw [tokensOf_of_unmatched hnone] at h
    cases h
    exact ⟨chunks, hcut, List.append_nil _⟩
  | unusable hne hfirst herror =>
    rw [tokensOf_of_error hne hfirst herror] at h
    cases h

/-- The kind of a token is that of the rule which has made it. -/
theorem exists_rule_of_tokensOf {tokens : List Token} {left : List Char}
    (h : tokensOf rules text = .ok (tokens, left)) : ∀ token ∈ tokens, ∃ rule ∈ rules, token.kind = rule.kind := by
  obtain ⟨chunks, hcut, rfl⟩ := exists_chunks_of_tokensOf h
  intro token hmem
  obtain ⟨chunk, hchunk, rfl⟩ := List.mem_map.mp hmem
  exact ⟨chunk.rule, (hcut.isFirst_of_mem chunk hchunk).firstMatch.rule_mem, rfl⟩

end

/-! ### Results and errors -/

/-- A text that is cut into the chunks, with what is left of it. -/
def Lexed.ofChunks (rules : List Rule) (chunks : List Chunk) (left : List Char) : Lexed where
  tokens := chunks.map Chunk.token ++ [.endOfInput]
  leftover := String.ofList left
  diagnostics := if left.isEmpty then [] else [untokenizable rules left]

section

variable {rules : List Rule} {source : String} {chunks : List Chunk} {left : List Char}

theorem Segmentation.lex_of_unmatched (h : Segmentation rules source.toList chunks left)
    (hnone : left ≠ [] → Unmatched rules left) : lex rules source = .ok (.ofChunks rules chunks left) := by
  rw [lex, h.tokensOf_eq, tokensOf_of_unmatched hnone]
  simp only [Except.map, List.append_nil]
  rfl

theorem Segmentation.lex_of_error {rule : Rule} {found : Pattern.Match} {error : MatchError}
    (h : Segmentation rules source.toList chunks left) (hne : left ≠ []) (hfirst : FirstMatch rules left rule found)
    (herror : rule.checked left found = .error error) : lex rules source = .error error := by
  rw [lex, h.tokensOf_eq, tokensOf_of_error hne hfirst herror]
  rfl

theorem lex_eq_ok_iff {lexed : Lexed} : lex rules source = .ok lexed ↔
    ∃ chunks left, Segmentation rules source.toList chunks left ∧ (left ≠ [] → Unmatched rules left) ∧
      lexed = .ofChunks rules chunks left := by
  constructor
  · intro h
    obtain ⟨chunks, left, hcut, hend⟩ := exists_segmentation rules source.toList
    cases hend with
    | unmatched hnone =>
      cases (hcut.lex_of_unmatched hnone).symm.trans h
      exact ⟨chunks, left, hcut, hnone, rfl⟩
    | unusable hne hfirst herror => cases (hcut.lex_of_error hne hfirst herror).symm.trans h
  · rintro ⟨chunks, left, hcut, hnone, rfl⟩
    exact hcut.lex_of_unmatched hnone

theorem lex_eq_error_iff {error : MatchError} : lex rules source = .error error ↔
    ∃ chunks left rule found, Segmentation rules source.toList chunks left ∧ left ≠ [] ∧
      FirstMatch rules left rule found ∧ rule.checked left found = .error error := by
  constructor
  · intro h
    obtain ⟨chunks, left, hcut, hend⟩ := exists_segmentation rules source.toList
    cases hend with
    | unmatched hnone => cases (hcut.lex_of_unmatched hnone).symm.trans h
    | unusable hne hfirst herror =>
      cases (hcut.lex_of_error hne hfirst herror).symm.trans h
      exact ⟨chunks, left, _, _, hcut, hne, hfirst, herror⟩
  · rintro ⟨chunks, left, rule, found, hcut, hne, hfirst, herror⟩
    exact hcut.lex_of_error hne hfirst herror

end

/-- To cut a source into tokens is to cut it into chunks, each the match of the first rule that matches where the chunk
begins, until nothing is left or no rule matches.  Then the chunks make the tokens in front of the end of the input, and
what is left is reported if there is any.  It fails if a place is reached where the first rule that matches matches the
empty text, or matches with a group that ends before it begins. -/
theorem lex_segmentation (rules : List Rule) (source : String) :
    (∀ lexed, lex rules source = .ok lexed ↔ ∃ chunks left, Segmentation rules source.toList chunks left ∧
      lexed.tokens = chunks.map Chunk.token ++ [.endOfInput] ∧ lexed.leftover = String.ofList left ∧
      (left = [] ∧ lexed.diagnostics = [] ∨
        left ≠ [] ∧ Unmatched rules left ∧ lexed.diagnostics = [untokenizable rules left])) ∧
    (∀ quoted shown, lex rules source = .error (.empty quoted shown) ↔ ∃ chunks left rule found,
      Segmentation rules source.toList chunks left ∧ left ≠ [] ∧ FirstMatch rules left rule found ∧
      found.isCrossed = false ∧ found.length = 0 ∧
      rule.quoted = quoted ∧ String.ofList (left.take Rule.shownLength) = shown) ∧
    (lex rules source = .error .crossedGroup ↔ ∃ chunks left rule found,
      Segmentation rules source.toList chunks left ∧ left ≠ [] ∧ FirstMatch rules left rule found ∧
      found.isCrossed = true) ∧
    ∀ chunks left, Segmentation rules source.toList chunks left →
      chunks.flatMap Chunk.text ++ left = source.toList ∧
      (∀ chunk ∈ chunks, chunk.text ≠ [] ∧ chunk.text.length = chunk.found.length) ∧
      chunks.length ≤ source.length := by
  refine ⟨fun lexed => ⟨fun h => ?_, ?_⟩, fun quoted shown => ?_, ?_, fun chunks left hcut => ⟨?_, ?_, ?_⟩⟩
  · obtain ⟨chunks, left, hcut, hnone, rfl⟩ := lex_eq_ok_iff.mp h
    refine ⟨chunks, left, hcut, rfl, rfl, ?_⟩
    cases left with
    | nil => exact .inl ⟨rfl, rfl⟩
    | cons c left => exact .inr ⟨List.cons_ne_nil c left, hnone (List.cons_ne_nil c left), rfl⟩
  · rintro ⟨chunks, left, hcut, htokens, hleftover, hend⟩
    rcases lexed with ⟨tokens, leftover, diagnostics⟩
    cases htokens
    cases hleftover
    rcases hend with ⟨rfl, hnothing⟩ | ⟨hne, hnone, hreported⟩
    · cases hnothing
      exact lex_eq_ok_iff.mpr ⟨chunks, [], hcut, absurd rfl, rfl⟩
    · cases hreported
      refine lex_eq_ok_iff.mpr ⟨chunks, left, hcut, fun _ => hnone, ?_⟩
      rw [Lexed.ofChunks, if_neg (mt List.isEmpty_iff.mp hne)]
      rfl
  · simp only [lex_eq_error_iff, Rule.checked_eq_empty_iff]
  · simp only [lex_eq_error_iff, Rule.checked_eq_crossedGroup_iff]
  · exact hcut.flatMap_text_append
  · exact fun chunk h => ⟨(hcut.isFirst_of_mem chunk h).text_ne_nil, (hcut.isFirst_of_mem chunk h).length_text⟩
  · exact String.length_toList ▸ hcut.length_le

end Precedence
