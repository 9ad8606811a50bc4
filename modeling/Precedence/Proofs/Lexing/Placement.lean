import Precedence.Proofs.Lexing.Coloring

/-!
# Places of pieces

The pieces of a text are slices of it (`isSlice_of_piecesFrom`): each of them is what the text has at the piece's place.
This holds also of a group that is captured in what is looked at ahead, behind the end of its match.  The piece of such
a group is cut off at the end of the match, so it may be empty, and it may have a place behind the end of the piece
before it.  If no match that is used captures behind its end, no piece is empty and each one begins where the one before
it ends (`tiles_of_piecesFrom`).
-/

namespace Precedence

/-! ### Slices -/

/-- The piece is what the text, which begins at `start`, has at the place of the piece. -/
def Piece.IsSlice (start : Nat) (text : List Char) (piece : Piece) : Prop :=
  start ≤ piece.position ∧ (text.drop (piece.position - start)).take piece.text.length = piece.text

/-- What is between two places of a text is a slice of it, also if the second place is before the first one. -/
theorem isSlice_between (start : Nat) (scope : Scope) (text : List Char) (first last : Nat) :
    Piece.IsSlice start text ⟨start + first, scope, (text.take last).drop first⟩ := by
  refine ⟨Nat.le_add_right start first, ?_⟩
  dsimp only
  have hfirst : start + first - start = first := by omega
  rw [hfirst, List.drop_take, List.length_take, ← List.take_take, List.take_length]

/-- A slice of what is behind a prefix of a text is a slice of the text. -/
theorem Piece.IsSlice.of_drop {start length : Nat} {text : List Char} {piece : Piece}
    (h : piece.IsSlice (start + length) (text.drop length)) : piece.IsSlice start text := by
  obtain ⟨hle, hslice⟩ := h
  have hplace : length + (piece.position - (start + length)) = piece.position - start := by omega
  rw [List.drop_drop, hplace] at hslice
  exact ⟨by omega, hslice⟩

/-- The pieces before, in and after a span of a match are slices of the text. -/
theorem Chunk.isSlice_span (chunk : Chunk) (position start stop : Nat) :
    ∀ piece ∈ ((if 0 < start then [⟨position, .text, chunk.text.take start⟩] else [])
      ++ (if start < stop then [⟨position + start, chunk.rule.kind.scope, (chunk.text.take stop).drop start⟩] else [])
      ++ (if stop < chunk.found.length then [⟨position + stop, .text, chunk.text.drop stop⟩] else []) : List Piece),
      piece.IsSlice position chunk.remaining := by
  intro piece hpiece
  simp only [List.mem_append, List.mem_ite_nil_right, List.mem_singleton] at hpiece
  rcases hpiece with (⟨-, rfl⟩ | ⟨-, rfl⟩) | ⟨-, rfl⟩
  · have h := isSlice_between position .text chunk.remaining 0 (min start chunk.found.length)
    rwa [Nat.add_zero, List.drop_zero, ← List.take_take] at h
  · have h := isSlice_between position chunk.rule.kind.scope chunk.remaining start (min stop chunk.found.length)
    rwa [← List.take_take] at h
  · exact isSlice_between position .text chunk.remaining stop chunk.found.length

theorem Chunk.isSlice_pieces (chunk : Chunk) (position : Nat) :
    ∀ piece ∈ chunk.rule.pieces chunk.found position chunk.remaining, piece.IsSlice position chunk.remaining := by
  unfold Rule.pieces
  cases chunk.found.firstGroup with
  | none => exact chunk.isSlice_span position 0 chunk.found.length
  | some capture => exact chunk.isSlice_span position capture.start capture.stop

/-! ### Pieces without gaps -/

/-- Each piece begins where the one before it ends, and the first one at `start`. -/
def Contiguous (start : Nat) : List Piece → Prop
  | [] => True
  | piece :: pieces => piece.position = start ∧ Contiguous (start + piece.text.length) pieces

theorem Contiguous.append {start : Nat} {pieces others : List Piece} (h : Contiguous start pieces)
    (hothers : Contiguous (start + (pieces.flatMap Piece.text).length) others) :
    Contiguous start (pieces ++ others) := by
  induction pieces generalizing start with
  | nil => simpa using hothers
  | cons piece pieces ih =>
    obtain ⟨hposition, hpieces⟩ := h
    refine ⟨hposition, ih hpieces ?_⟩
    rw [List.flatMap_cons, List.length_append] at hothers
    rwa [Nat.add_assoc]

/-- The pieces are not empty and leave no gap. -/
def Tiles (start : Nat) (pieces : List Piece) : Prop := (∀ piece ∈ pieces, piece.text ≠ []) ∧ Contiguous start pieces

theorem Tiles.append {start : Nat} {pieces others : List Piece} (h : Tiles start pieces)
    (hothers : Tiles (start + (pieces.flatMap Piece.text).length) others) : Tiles start (pieces ++ others) :=
  ⟨List.forall_mem_append.mpr ⟨h.1, hothers.1⟩, h.2.append hothers.2⟩

/-- A piece that is left out unless the condition holds. -/
theorem tiles_ite {condition : Prop} [Decidable condition] {start : Nat} {piece : Piece}
    (h : condition → piece.text ≠ [] ∧ piece.position = start) : Tiles start (if condition then [piece] else []) := by
  split
  · next hcondition =>
    obtain ⟨hne, hposition⟩ := h hcondition
    exact ⟨List.forall_mem_singleton.mpr hne, hposition, trivial⟩
  · exact ⟨List.forall_mem_nil _, trivial⟩

/-- The match captures nothing behind its end. -/
def Chunk.CapturesWithin (chunk : Chunk) : Prop :=
  ∀ capture, chunk.found.firstGroup = some capture → capture.stop ≤ chunk.found.length

section

variable {rules : List Rule}

/-- The pieces before, in and after a span within a match leave no gap. -/
theorem Chunk.IsFirst.tiles_span {chunk : Chunk} (h : chunk.IsFirst rules) (position : Nat) {start stop : Nat}
    (hle : start ≤ stop) (hwithin : stop ≤ chunk.found.length) :
    Tiles position ((if 0 < start then [⟨position, .text, chunk.text.take start⟩] else [])
      ++ (if start < stop then [⟨position + start, chunk.rule.kind.scope, (chunk.text.take stop).drop start⟩] else [])
      ++ (if stop < chunk.found.length then [⟨position + stop, .text, chunk.text.drop stop⟩] else [])) := by
  have hlength := h.length_text
  have hbefore : (chunk.text.take start).length = start := List.length_take_of_le (by omega)
  have hspan : ((chunk.text.take stop).drop start).length = stop - start := by
    rw [List.length_drop, List.length_take]
    omega
  have hafter : (chunk.text.drop stop).length = chunk.found.length - stop := by
    rw [List.length_drop, hlength]
  have hnonempty : ∀ {text : List Char} {length : Nat}, text.length = length → 0 < length → text ≠ [] :=
    fun htext hpos => List.ne_nil_of_length_pos (by omega)
  refine Tiles.append (Tiles.append (tiles_ite fun hstart => ?_) (tiles_ite fun hinner => ?_))
    (tiles_ite fun hstop => ?_)
  · exact ⟨hnonempty hbefore hstart, rfl⟩
  · refine ⟨hnonempty hspan (by omega), ?_⟩
    rw [flatMap_text_ite fun hzero => List.eq_nil_of_length_eq_zero (by dsimp only; omega)]
    dsimp only
    omega
  · refine ⟨hnonempty hafter (by omega), ?_⟩
    rw [List.flatMap_append, flatMap_text_ite fun hzero => List.eq_nil_of_length_eq_zero (by dsimp only; omega),
      flatMap_text_ite fun hempty => List.eq_nil_of_length_eq_zero (by dsimp only; omega), List.length_append]
    dsimp only
    omega

theorem Chunk.IsFirst.tiles_pieces {chunk : Chunk} (h : chunk.IsFirst rules) (hwithin : chunk.CapturesWithin)
    (position : Nat) : Tiles position (chunk.rule.pieces chunk.found position chunk.remaining) := by
  unfold Rule.pieces
  cases hgroup : chunk.found.firstGroup with
  | none => exact h.tiles_span position (Nat.zero_le _) (Nat.le_refl _)
  | some capture => exact h.tiles_span position (Nat.le_add_right _ _) (hwithin capture hgroup)

/-! ### Pieces of a text -/

/-- What is true of the end of a text, and goes on from what is behind a chunk to the chunk, is true of all pieces of a
text. -/
theorem piecesFrom_induction {p : Nat → List Char → List Piece → Prop}
    (stop : ∀ start text, p start text (if text = [] then [] else [⟨start, .error, text⟩]))
    (cut : ∀ start (chunk : Chunk) behind, chunk.IsFirst rules → p (start + chunk.found.length) chunk.rest behind →
      p start chunk.remaining (chunk.rule.pieces chunk.found start chunk.remaining ++ behind))
    {start : Nat} {text : List Char} {pieces : List Piece} (h : piecesFrom rules start text = .ok pieces) :
    p start text pieces := by
  obtain ⟨chunks, left, hcut, hend⟩ := exists_segmentation rules text
  induction hcut generalizing start pieces with
  | stop text =>
    cases hend with
    | unmatched hnone =>
      rw [piecesFrom_of_unmatched hnone] at h
      cases h
      exact stop start text
    | unusable hne hfirst herror =>
      rw [piecesFrom_of_error hne hfirst herror] at h
      cases h
  | @cut chunk chunks left hfirst hrest ih =>
    rw [hfirst.piecesFrom_eq] at h
    cases hbehind : piecesFrom rules (start + chunk.found.length) chunk.rest with
    | error error =>
      rw [hbehind] at h
      cases h
    | ok behind =>
      rw [hbehind] at h
      cases h
      exact cut start chunk behind hfirst (ih hbehind hend)

/-- All pieces of a text are slices of it. -/
theorem isSlice_of_piecesFrom {start : Nat} {text : List Char} {pieces : List Piece}
    (h : piecesFrom rules start text = .ok pieces) : ∀ piece ∈ pieces, piece.IsSlice start text := by
  refine piecesFrom_induction (p := fun start text pieces => ∀ piece ∈ pieces, piece.IsSlice start text) ?_ ?_ h
  · intro start text
    split
    · exact List.forall_mem_nil _
    · have hwhole := isSlice_between start .error text 0 text.length
      rw [Nat.add_zero, List.drop_zero, List.take_length] at hwhole
      exact List.forall_mem_singleton.mpr hwhole
  · intro start chunk behind _ ih
    exact List.forall_mem_append.mpr ⟨chunk.isSlice_pieces start, fun piece hpiece => (ih piece hpiece).of_drop⟩

/-- The chunk is taken when the text is cut. -/
def Chunk.IsUsed (rules : List Rule) (text : List Char) (chunk : Chunk) : Prop :=
  ∃ chunks left, Segmentation rules text chunks left ∧ chunk ∈ chunks

theorem Chunk.IsFirst.isUsed {chunk : Chunk} (h : chunk.IsFirst rules) : chunk.IsUsed rules chunk.remaining :=
  ⟨[chunk], chunk.rest, .cut h (.stop _), List.mem_singleton_self chunk⟩

theorem Chunk.IsUsed.behind {chunk other : Chunk} (h : chunk.IsFirst rules) (hother : other.IsUsed rules chunk.rest) :
    other.IsUsed rules chunk.remaining := by
  obtain ⟨chunks, left, hcut, hmem⟩ := hother
  exact ⟨chunk :: chunks, left, .cut h hcut, List.mem_cons_of_mem chunk hmem⟩

/-- If no match captures behind its end, the pieces of a text are not empty and leave no gap. -/
theorem tiles_of_piecesFrom {start : Nat} {text : List Char} {pieces : List Piece}
    (h : piecesFrom rules start text = .ok pieces)
    (hwithin : ∀ chunk : Chunk, chunk.IsUsed rules text → chunk.CapturesWithin) : Tiles start pieces := by
  refine piecesFrom_induction (p := fun start text pieces =>
    (∀ chunk : Chunk, chunk.IsUsed rules text → chunk.CapturesWithin) → Tiles start pieces) ?_ ?_ h hwithin
  · intro start text _
    split
    · exact ⟨List.forall_mem_nil _, trivial⟩
    · next hne => exact ⟨List.forall_mem_singleton.mpr hne, rfl, trivial⟩
  · intro start chunk behind hfirst ih hwithin
    refine (hfirst.tiles_pieces (hwithin chunk hfirst.isUsed) start).append ?_
    rw [(chunk.isShownBy_pieces start).text_eq, hfirst.length_text]
    exact ih fun other hother => hwithin other (hother.behind hfirst)

end

/-- The pieces of a source make it up, and each of them is what the source has at the piece's place.  If no match that
is used captures behind its end, no piece is empty, and each one begins where the one before it ends, the first one at
the start of the source. -/
theorem pieces_in_place {rules : List Rule} {source : String} {found : List Piece}
    (h : pieces rules source = .ok found) :
    found.flatMap Piece.text = source.toList ∧
    (∀ piece ∈ found, (source.toList.drop piece.position).take piece.text.length = piece.text) ∧
    ((∀ chunk : Chunk, chunk.IsUsed rules source.toList → chunk.CapturesWithin) →
      (∀ piece ∈ found, piece.text ≠ []) ∧ Contiguous 0 found) := by
  refine ⟨flatMap_text_of_piecesFrom h, fun piece hpiece => ?_, tiles_of_piecesFrom h⟩
  obtain ⟨-, hslice⟩ := isSlice_of_piecesFrom h piece hpiece
  rwa [Nat.sub_zero] at hslice

/-- What a rule for a lexeme captures is the lexeme, and the white space behind it belongs to the match. -/
theorem capturesWithin_of_lexicon {lexicon : List Entry} {text : List Char} {chunk : Chunk}
    (h : chunk.IsUsed (lexicon.map Entry.rule) text) : chunk.CapturesWithin := by
  obtain ⟨chunks, left, hcut, hmem⟩ := h
  have hfirst := (hcut.isFirst_of_mem chunk hmem).firstMatch
  obtain ⟨entry, -, hrule⟩ := List.mem_map.mp hfirst.rule_mem
  have hmatch := hfirst.match?_eq
  rw [← hrule, entry.match?_rule] at hmatch
  intro capture hcapture
  split at hmatch
  · cases hmatch
  · injection hmatch with hfound
    rw [← hfound] at hcapture ⊢
    cases hcapture
    exact Nat.le_add_right _ _

theorem pieces_in_place_sevenAndExclamation :
    pieces Arithmetic.rules "7\n!" = .ok [⟨0, .integer, ['7']⟩, ⟨1, .text, ['\n']⟩, ⟨2, .error, ['!']⟩] ∧
    (∀ chunk : Chunk, chunk.IsUsed Arithmetic.rules "7\n!".toList → chunk.CapturesWithin) ∧
    (∀ piece ∈ ([⟨0, .integer, ['7']⟩, ⟨1, .text, ['\n']⟩, ⟨2, .error, ['!']⟩] : List Piece), piece.text ≠ []) ∧
    Contiguous 0 [⟨0, .integer, ['7']⟩, ⟨1, .text, ['\n']⟩, ⟨2, .error, ['!']⟩] := by
  have hpieces : pieces Arithmetic.rules "7\n!" = _ := piecesFrom_sevenAndExclamation
  have hwithin : ∀ chunk : Chunk, chunk.IsUsed Arithmetic.rules "7\n!".toList → chunk.CapturesWithin := by
    rw [Arithmetic.rules_eq]
    exact fun chunk hchunk => capturesWithin_of_lexicon hchunk
  exact ⟨hpieces, hwithin, (pieces_in_place hpieces).2.2 hwithin⟩

end Precedence
