import Precedence.Highlight
import Precedence.Proofs.Lexing.Segmentation

/-!
# Pieces of a segmentation

The pieces that a text is highlighted in come from the segmentation that its tokens come from.  The pieces of a chunk
make up what is matched (`Chunk.isShownBy_pieces`), and an end of a segmentation is an end for both.  So both fail for
the same reason, or there is one segmentation of which one shows the chunks and the other makes their tokens
(`pieces_segmentation`).
-/

namespace Precedence

/-! ### The pieces of a chunk -/

/-- The pieces make up what is matched, as plain text or in the scope of the rule's kind. -/
structure Chunk.IsShownBy (chunk : Chunk) (pieces : List Piece) : Prop where
  text_eq : pieces.flatMap Piece.text = chunk.text
  scope : ∀ piece ∈ pieces, piece.scope = .text ∨ piece.scope = chunk.rule.kind.scope

/-- A piece that is left out unless the condition holds. -/
theorem flatMap_text_ite {condition : Prop} [Decidable condition] {piece : Piece}
    (h : ¬condition → piece.text = []) : (if condition then [piece] else []).flatMap Piece.text = piece.text := by
  split
  · exact List.append_nil _
  · rename_i hnot
    exact (h hnot).symm

/-- A match is shown by the pieces before, in and after a span, which may end behind the match. -/
theorem Chunk.isShownBy_span (chunk : Chunk) (position : Nat) {start stop : Nat} (hle : start ≤ stop) :
    chunk.IsShownBy ((if 0 < start then [⟨position, .text, chunk.text.take start⟩] else [])
      ++ (if start < stop then [⟨position + start, chunk.rule.kind.scope, (chunk.text.take stop).drop start⟩] else [])
      ++ (if stop < chunk.found.length then [⟨position + stop, .text, chunk.text.drop stop⟩] else [])) := by
  constructor
  · have hlength : chunk.text.length ≤ chunk.found.length := List.length_take_le ..
    have htake : chunk.text.take start = (chunk.text.take stop).take start := by
      rw [List.take_take, Nat.min_eq_left hle]
    rw [List.flatMap_append, List.flatMap_append,
      flatMap_text_ite fun hzero => by rw [Nat.eq_zero_of_not_pos hzero, List.take_zero],
      flatMap_text_ite fun hempty => List.drop_eq_nil_of_le (by rw [List.length_take]; omega),
      flatMap_text_ite fun hstop => List.drop_eq_nil_of_le (by omega),
      htake, List.take_append_drop, List.take_append_drop]
  · intro piece hpiece
    simp only [List.mem_append, List.mem_ite_nil_right, List.mem_singleton] at hpiece
    rcases hpiece with (⟨-, rfl⟩ | ⟨-, rfl⟩) | ⟨-, rfl⟩
    · exact .inl rfl
    · exact .inr rfl
    · exact .inl rfl

theorem Chunk.isShownBy_pieces (chunk : Chunk) (position : Nat) :
    chunk.IsShownBy (chunk.rule.pieces chunk.found position chunk.remaining) := by
  unfold Rule.pieces
  cases chunk.found.firstGroup with
  | none => exact chunk.isShownBy_span position (Nat.zero_le _)
  | some capture => exact chunk.isShownBy_span position (Nat.le_add_right ..)

/-! ### The first match -/

section

variable {rules : List Rule} {rule : Rule} {text : List Char} {found : Pattern.Match}

theorem Unmatched.firstMatch?_eq (h : Unmatched rules text) : firstMatch? text rules = .ok none := by
  induction rules with
  | nil => rfl
  | cons rule rules ih =>
    obtain ⟨hrule, hrules⟩ := List.forall_mem_cons.mp h
    simp only [firstMatch?, Rule.match?_of_none hrule, ih hrules]

theorem FirstMatch.firstMatch?_eq (h : FirstMatch rules text rule found) :
    firstMatch? text rules = (rule.checked text found).map fun found => some (rule, found) := by
  obtain ⟨earlier, later, rfl, hearlier, hmatch⟩ := h
  induction earlier with
  | nil =>
    rw [List.nil_append, firstMatch?, Rule.match?_of_some hmatch]
    cases rule.checked text found <;> rfl
  | cons other earlier ih =>
    obtain ⟨hother, hearlier⟩ := List.forall_mem_cons.mp hearlier
    simp only [List.cons_append, firstMatch?, Rule.match?_of_none hother]
    exact ih hearlier

end

/-! ### Pieces of a segmentation -/

section

variable {rules : List Rule} {text : List Char} {position : Nat}

theorem piecesFrom_of_ne_nil (hne : text ≠ []) : piecesFrom rules position text =
    match firstMatch? text rules with
    | .error error => .error error
    | .ok none => .ok [⟨position, .error, text⟩]
    | .ok (some (rule, found)) =>
      (piecesFrom rules (position + found.length) (text.drop found.length)).map
        (rule.pieces found position text ++ ·) := by
  rw [piecesFrom, dif_neg hne]
  split
  · next h => rw [h]
  · next h => rw [h]
  · next h =>
    rw [h]
    dsimp only
    split
    · next hrest => rw [hrest]; rfl
    · next hrest => rw [hrest]; rfl

theorem piecesFrom_of_unmatched (hnone : text ≠ [] → Unmatched rules text) :
    piecesFrom rules position text = .ok (if text = [] then [] else [⟨position, .error, text⟩]) := by
  by_cases hne : text = []
  · rw [piecesFrom, dif_pos hne, if_pos hne]
  · rw [piecesFrom_of_ne_nil hne, (hnone hne).firstMatch?_eq, if_neg hne]

theorem piecesFrom_of_error {rule : Rule} {found : Pattern.Match} {error : MatchError} (hne : text ≠ [])
    (hfirst : FirstMatch rules text rule found) (herror : rule.checked text found = .error error) :
    piecesFrom rules position text = .error error := by
  rw [piecesFrom_of_ne_nil hne, hfirst.firstMatch?_eq, herror]
  rfl

theorem Chunk.IsFirst.piecesFrom_eq {chunk : Chunk} (h : chunk.IsFirst rules) :
    piecesFrom rules position chunk.remaining =
      (piecesFrom rules (position + chunk.found.length) chunk.rest).map
        (chunk.rule.pieces chunk.found position chunk.remaining ++ ·) := by
  rw [piecesFrom_of_ne_nil h.remaining_ne_nil, h.firstMatch.firstMatch?_eq, h.checked_eq]
  rfl

/-- The pieces of a text are those of the chunks and those of what is left. -/
theorem Segmentation.exists_piecesFrom_eq {chunks : List Chunk} {left : List Char}
    (h : Segmentation rules text chunks left) (position : Nat) : ∃ steps : List (Chunk × List Piece),
      chunks = steps.map Prod.fst ∧ (∀ step ∈ steps, step.1.IsShownBy step.2) ∧
      piecesFrom rules position text = (piecesFrom rules (position + (text.length - left.length)) left).map
        (steps.flatMap Prod.snd ++ ·) := by
  induction h generalizing position with
  | stop text =>
    refine ⟨[], rfl, (fun _ h => nomatch h), ?_⟩
    rw [Nat.sub_self]
    cases piecesFrom rules _ text <;> rfl
  | @cut chunk chunks left hfirst hrest ih =>
    obtain ⟨steps, rfl, hshown, hpieces⟩ := ih (position + chunk.found.length)
    refine ⟨(chunk, chunk.rule.pieces chunk.found position chunk.remaining) :: steps, rfl,
      List.forall_mem_cons.mpr ⟨chunk.isShownBy_pieces position, hshown⟩, ?_⟩
    have hplace : position + (chunk.remaining.length - left.length) =
        position + chunk.found.length + (chunk.rest.length - left.length) := by
      have hleft := hrest.length_left_le
      have hfound := hfirst.length_le
      simp only [Chunk.rest, List.length_drop] at hleft ⊢
      omega
    rw [hfirst.piecesFrom_eq, hpieces, hplace]
    cases piecesFrom rules _ left with
    | error => rfl
    | ok behind => simp only [Except.map, List.flatMap_cons, List.append_assoc]

/-- The pieces of a text make up the text. -/
theorem flatMap_text_of_piecesFrom {pieces : List Piece} (h : piecesFrom rules position text = .ok pieces) :
    pieces.flatMap Piece.text = text := by
  obtain ⟨chunks, left, hcut, hend⟩ := exists_segmentation rules text
  obtain ⟨steps, rfl, hshown, hpieces⟩ := hcut.exists_piecesFrom_eq position
  rw [hpieces] at h
  cases hend with
  | unmatched hnone =>
    rw [piecesFrom_of_unmatched hnone] at h
    cases h
    have hsteps : (steps.flatMap Prod.snd).flatMap Piece.text = (steps.map Prod.fst).flatMap Chunk.text := by
      rw [List.flatMap_assoc, List.flatMap_map, List.flatMap_def, List.flatMap_def,
        List.map_congr_left fun step hstep => (hshown step hstep).text_eq]
    rw [List.flatMap_append, hsteps, ← hcut.flatMap_text_append]
    congr 1
    split
    · next hnil => exact hnil.symm
    · exact List.append_nil _
  | unusable hne hfirst herror =>
    rw [piecesFrom_of_error hne hfirst herror] at h
    cases h

/-- There are no pieces where a place is reached at which the first match cannot be used. -/
theorem piecesFrom_eq_error_iff {error : MatchError} : piecesFrom rules position text = .error error ↔
    ∃ chunks left rule found, Segmentation rules text chunks left ∧ left ≠ [] ∧ FirstMatch rules left rule found ∧
      rule.checked left found = .error error := by
  constructor
  · intro h
    obtain ⟨chunks, left, hcut, hend⟩ := exists_segmentation rules text
    obtain ⟨steps, -, -, hpieces⟩ := hcut.exists_piecesFrom_eq position
    rw [hpieces] at h
    cases hend with
    | unmatched hnone =>
      rw [piecesFrom_of_unmatched hnone] at h
      cases h
    | unusable hne hfirst herror =>
      rw [piecesFrom_of_error hne hfirst herror] at h
      cases h
      exact ⟨chunks, left, _, _, hcut, hne, hfirst, herror⟩
  · rintro ⟨chunks, left, rule, found, hcut, hne, hfirst, herror⟩
    obtain ⟨steps, -, -, hpieces⟩ := hcut.exists_piecesFrom_eq position
    rw [hpieces, piecesFrom_of_error hne hfirst herror]
    rfl

end

/-- Highlighting and cutting into tokens go by the same segmentation of a source.  They fail for the same reason; else
the chunks of one segmentation make the tokens, and the pieces are those that show the chunks, one after the other, with
what is left as a piece in error. -/
theorem pieces_segmentation (rules : List Rule) (source : String) :
    (∀ error, pieces rules source = .error error ↔ lex rules source = .error error) ∧
    ∀ lexed, lex rules source = .ok lexed → ∃ steps : List (Chunk × List Piece),
      Segmentation rules source.toList (steps.map Prod.fst) lexed.leftover.toList ∧
      lexed.tokens = steps.map (·.1.token) ++ [.endOfInput] ∧
      (∀ step ∈ steps, step.1.IsShownBy step.2) ∧
      pieces rules source = .ok (steps.flatMap Prod.snd ++ if lexed.leftover = "" then [] else
        [⟨source.length - lexed.leftover.length, .error, lexed.leftover.toList⟩]) := by
  obtain ⟨chunks, left, hcut, hend⟩ := exists_segmentation rules source.toList
  obtain ⟨steps, rfl, hshown, hpieces⟩ := hcut.exists_piecesFrom_eq 0
  cases hend with
  | unmatched hnone =>
    have hlex := hcut.lex_of_unmatched hnone
    rw [piecesFrom_of_unmatched hnone] at hpieces
    refine ⟨fun error => ?_, fun lexed h => ?_⟩
    · simp only [hlex, pieces, hpieces, Except.map, reduceCtorEq]
    · cases hlex.symm.trans h
      refine ⟨steps, ?_, by rw [Lexed.ofChunks, List.map_map]; rfl, hshown, ?_⟩
      · simpa [Lexed.ofChunks] using hcut
      · simpa [Lexed.ofChunks, pieces, Except.map, String.length_toList] using hpieces
  | unusable hne hfirst herror =>
    have hlex := hcut.lex_of_error hne hfirst herror
    rw [piecesFrom_of_error hne hfirst herror] at hpieces
    refine ⟨fun error => ?_, fun lexed h => ?_⟩
    · simp only [hlex, pieces, hpieces, Except.map, Except.error.injEq]
    · cases hlex.symm.trans h

end Precedence
