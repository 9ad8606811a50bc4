import Precedence.Pattern.Matching

/-!
# Lexemes between white space

What a pattern `\s*(X)\s*` matches, where `X` is a character of a set or one or more of them, and none of the characters
is white space: the white space at the start, the longest lexeme that follows, and the white space after that.  There
is a match if and only if the lexeme is not empty (`match?_of_body`).

The search goes back to less white space only if no lexeme follows all of it, and then it finds none either: where white
space is left, no lexeme begins.
-/

namespace Precedence.Pattern

/-! ### Runs of characters -/

/-- How many characters at the start of the text are in the set. -/
def CharSet.span (set : CharSet) (text : List Char) : Nat := (text.takeWhile set.contains).length

@[simp] theorem CharSet.span_nil (set : CharSet) : set.span [] = 0 := rfl

theorem CharSet.span_cons (set : CharSet) (c : Char) (text : List Char) :
    set.span (c :: text) = if set.contains c then set.span text + 1 else 0 := by
  unfold span
  rw [List.takeWhile_cons]
  split <;> simp

theorem CharSet.contains_of_mem_take {set : CharSet} {text : List Char} {c : Char}
    (h : c ∈ text.take (set.span text)) : set.contains c := by
  have htake : text.take (set.span text) = text.takeWhile set.contains :=
    (List.prefix_iff_eq_take.mp (List.takeWhile_prefix _)).symm
  rw [htake] at h
  exact List.all_eq_true.mp List.all_takeWhile c h

theorem CharSet.not_contains_head_drop {set : CharSet} {text : List Char} {c : Char}
    (h : c ∈ (text.drop (set.span text)).head?) : ¬ set.contains c := by
  induction text with
  | nil => cases h
  | cons d text ih =>
    rw [span_cons] at h
    split at h
    · exact ih h
    · next hd =>
      obtain rfl : d = c := by simpa using h
      exact hd

theorem CharSet.span_append {set : CharSet} {text rest : List Char} (h : ∀ c ∈ text, set.contains c)
    (hrest : ∀ c ∈ rest.head?, ¬ set.contains c) : set.span (text ++ rest) = text.length := by
  induction text with
  | nil =>
    cases rest with
    | nil => rfl
    | cons c rest => simp [span_cons, hrest c rfl]
  | cons c text ih =>
    rw [List.cons_append, span_cons, if_pos (h c List.mem_cons_self), ih fun d hd => h d (List.mem_cons_of_mem _ hd)]
    rfl

/-- All characters before the end of the span are in the set. -/
theorem CharSet.contains_of_lt_span {set : CharSet} {text : List Char} {n : Nat} (h : n < set.span text) :
    (text.drop n).head?.any set.contains := by
  induction text generalizing n with
  | nil => simp [span] at h
  | cons c text ih =>
    rw [span_cons] at h
    split at h
    · next hc =>
      cases n with
      | zero => simpa using hc
      | succ n => exact ih (by omega)
    · omega

namespace Place

/-- The place so many characters further on. -/
def ahead (place : Place) (count : Nat) : Place :=
  ⟨(place.after.take count).reverse ++ place.before, place.after.drop count, place.position + count⟩

@[simp] theorem ahead_zero (place : Place) : place.ahead 0 = place := by
  simp [ahead]

theorem ahead_advance {place : Place} {c : Char} {rest : List Char} (h : place.after = c :: rest) (count : Nat) :
    (place.advance c rest).ahead count = place.ahead (count + 1) := by
  simp [ahead, advance, h, Nat.add_comm, Nat.add_left_comm]

theorem ahead_one {place : Place} {c : Char} {rest : List Char} (h : place.after = c :: rest) :
    place.ahead 1 = place.advance c rest := by
  rw [← ahead_advance h, ahead_zero]

/-- The place so many characters further on and those before it, the farthest first. -/
def upTo (place : Place) : Nat → List Place
  | 0 => [place]
  | count + 1 => place.ahead (count + 1) :: place.upTo count

theorem upTo_advance {place : Place} {c : Char} {rest : List Char} (h : place.after = c :: rest) (count : Nat) :
    (place.advance c rest).upTo count ++ [place] = place.upTo (count + 1) := by
  induction count with
  | zero => simp [upTo, ← ahead_advance h 0]
  | succ count ih =>
    rw [upTo, upTo, List.cons_append, ih, ahead_advance h]

theorem length_upTo (place : Place) (count : Nat) : (place.upTo count).length = count + 1 := by
  induction count with
  | zero => rfl
  | succ count ih => rw [upTo, List.length_cons, ih]

theorem mem_upTo {place p : Place} {count : Nat} (h : p ∈ place.upTo count) : ∃ n, n ≤ count ∧ p = place.ahead n := by
  induction count with
  | zero =>
    obtain rfl : p = place := by simpa [upTo] using h
    exact ⟨0, Nat.le_refl 0, by simp⟩
  | succ count ih =>
    rcases List.mem_cons.mp h with rfl | h
    · exact ⟨count + 1, Nat.le_refl _, rfl⟩
    · obtain ⟨n, hn, rfl⟩ := ih h
      exact ⟨n, by omega, rfl⟩

/-- The places that are reached through the set are those up to the end of its span. -/
theorem through_eq_upTo (set : CharSet) {text : List Char} {place : Place} (h : place.after = text)
    (places : List Place) : through set none text place places = place.upTo (set.span text) ++ places := by
  induction text generalizing place places with
  | nil => rfl
  | cons c text ih =>
    rw [through, CharSet.span_cons]
    by_cases hc : set.contains c
    · have hmore := @ih (place.advance c text) rfl (place :: places)
      simp only [hc, Bool.and_true, if_true, Option.map_none]
      rw [← upTo_advance h, List.append_assoc, List.singleton_append, ← hmore]
      rfl
    · simp [hc, upTo]

end Place

/-! ### Searches -/

/-- The continuation does not match from the place on, whatever the search has tried before. -/
def Continuation.Fails (next : Continuation) (place : Place) : Prop :=
  ∀ trail, ∃ failed, next.run place trail = .failure failed

/-- The continuation matches from the place on, and it leaves the given trail wherever the scan has last been. -/
def Continuation.Succeeds (next : Continuation) (place : Place) (marks : Marks) (trail : Trail) : Prop :=
  ∀ scan, next.run place ⟨scan, marks⟩ = .success trail

theorem tryPlaces_failure {kept : Bool} {marks : Marks} {next : Continuation} {places : List Place}
    (h : ∀ place ∈ places, next.Fails place) (trail : Trail) :
    ∃ failed, tryPlaces kept marks next places trail = .failure failed := by
  induction places generalizing trail with
  | nil => exact ⟨trail, rfl⟩
  | cons place places ih =>
    have hrest := ih fun p hp => h p (List.mem_cons_of_mem _ hp)
    unfold tryPlaces
    split
    · exact hrest trail
    · obtain ⟨failed, hfailed⟩ := h place List.mem_cons_self (trail.scanAt place)
      rw [hfailed]
      exact hrest _

theorem tryPlaces_success {kept : Bool} {marks : Marks} {next : Continuation} {place : Place} {places : List Place}
    {trail final : Trail} (hlead : next.lead = none) (h : next.Succeeds place trail.marks final) :
    tryPlaces kept marks next (place :: places) trail = .success final := by
  have hrun : next.run place (trail.scanAt place) = .success final := h place
  simp [tryPlaces, Continuation.excludes, hlead, hrun]

/-! ### White space -/

/-- The set of the white space characters. -/
def spaces : CharSet := ⟨[.named .space false false], false, .exact⟩

@[simp] theorem contains_spaces (c : Char) : spaces.contains c = Text.isSpace c := by
  simp [spaces, CharSet.contains_exact, SetItem.contains, Category.contains]

/-- Any amount of white space. -/
def padding : Node := .iterate 0 none .greedy (.oneOf spaces)

theorem iterate_run (set : CharSet) {kept : Bool} {least : Nat} {next : Continuation} {place : Place} {trail : Trail}
    (hleft : place.hasLeft least) :
    (Node.iterate least none .greedy (.oneOf set)).run kept next place trail =
      tryPlaces kept trail.marks next ((place.upTo (set.span place.after)).take (set.span place.after + 1 - least))
        (trail.scanAt place) := by
  simp [Node.run, Node.unit?, iterateSet, hleft, Place.through_eq_upTo set rfl, Place.length_upTo, Trail.scanAt]

private theorem padding_run (kept : Bool) (next : Continuation) (place : Place) (trail : Trail) :
    padding.run kept next place trail =
      tryPlaces kept trail.marks next (place.upTo (spaces.span place.after)) (trail.scanAt place) := by
  rw [padding, iterate_run spaces (by simp [Place.hasLeft]), List.take_of_length_le (by simp [Place.length_upTo])]

theorem padding_success {kept : Bool} {next : Continuation} {place : Place} {trail final : Trail}
    (hlead : next.lead = none) (h : next.Succeeds (place.ahead (spaces.span place.after)) trail.marks final) :
    padding.run kept next place trail = .success final := by
  rw [padding_run]
  generalize hn : spaces.span place.after = n at h
  cases n with
  | zero =>
    rw [Place.ahead_zero] at h
    exact tryPlaces_success hlead h
  | succ n => exact tryPlaces_success hlead h

theorem padding_failure {kept : Bool} {next : Continuation} {place : Place}
    (h : ∀ n, n ≤ spaces.span place.after → next.Fails (place.ahead n)) (trail : Trail) :
    ∃ failed, padding.run kept next place trail = .failure failed := by
  rw [padding_run]
  refine tryPlaces_failure (fun p hp => ?_) _
  obtain ⟨n, hn, rfl⟩ := Place.mem_upTo hp
  exact h n hn

/-- The text behind the white space at its start. -/
def begun (text : List Char) : List Char := text.drop (spaces.span text)

/-! ### Lexemes -/

/-- A character of a set, or one or more of them; none of the characters is white space. -/
structure Lexical where
  set : CharSet
  isRepeated : Bool
  solid : ∀ c, Text.isSpace c → ¬ set.contains c

namespace Lexical

/-- The pattern of the lexeme. -/
def node (lexical : Lexical) : Node :=
  if lexical.isRepeated then .iterate 1 none .greedy (.oneOf lexical.set) else .oneOf lexical.set

/-- The length of the lexeme at the start of the text, which is zero if there is none. -/
def length (lexical : Lexical) (text : List Char) : Nat :=
  if lexical.isRepeated then lexical.set.span text else lexical.set.span (text.take 1)

theorem length_eq_zero_iff {lexical : Lexical} {text : List Char} :
    lexical.length text = 0 ↔ ¬ text.head?.any lexical.set.contains := by
  unfold length
  cases text with
  | nil => simp [CharSet.span]
  | cons c text =>
    simp only [List.take_succ_cons, List.take_zero, CharSet.span_cons, List.head?_cons, Option.any_some]
    by_cases hc : lexical.set.contains c <;> cases lexical.isRepeated <;> simp [hc]

theorem oneOf_run_nil {set : CharSet} {kept : Bool} {next : Continuation} {place : Place} {trail : Trail}
    (hafter : place.after = []) : (Node.oneOf set).run kept next place trail = .failure trail := by
  rw [Node.run, hafter]

theorem oneOf_run_cons {set : CharSet} {kept : Bool} {next : Continuation} {place : Place} {trail : Trail} {c : Char}
    {rest : List Char} (hafter : place.after = c :: rest) : (Node.oneOf set).run kept next place trail =
      if set.contains c then next.run (place.advance c rest) trail else .failure trail := by
  rw [Node.run, hafter]

theorem node_success {lexical : Lexical} {kept : Bool} {next : Continuation} {place : Place} {trail final : Trail}
    (hlead : next.lead = none) (hpos : lexical.length place.after ≠ 0)
    (h : next.Succeeds (place.ahead (lexical.length place.after)) trail.marks final) :
    lexical.node.run kept next place trail = .success final := by
  obtain ⟨set, isRepeated, solid⟩ := lexical
  have hfirst : place.after.head?.any set.contains := by
    simpa using mt length_eq_zero_iff.mpr hpos
  cases hafter : place.after with
  | nil => simp [hafter] at hfirst
  | cons c rest =>
    have hc : set.contains c := by simpa [hafter] using hfirst
    cases isRepeated with
    | false =>
      have hlength : length ⟨set, false, solid⟩ place.after = 1 := by simp [length, hafter, CharSet.span_cons, hc]
      rw [hlength, Place.ahead_one hafter] at h
      show (Node.oneOf set).run kept next place trail = _
      rw [oneOf_run_cons hafter, if_pos hc]
      exact h trail.scan
    | true =>
      have hlength : length ⟨set, true, solid⟩ place.after = set.span rest + 1 := by
        simp [length, hafter, CharSet.span_cons, hc]
      have hspan : set.span place.after = set.span rest + 1 := hlength
      rw [hlength] at h
      show (Node.iterate 1 none .greedy (.oneOf set)).run kept next place trail = _
      rw [iterate_run set (by simp [Place.hasLeft, hafter]), hspan]
      exact tryPlaces_success hlead h

theorem node_failure {lexical : Lexical} {kept : Bool} {next : Continuation} {place : Place}
    (hzero : lexical.length place.after = 0) (trail : Trail) :
    ∃ failed, lexical.node.run kept next place trail = .failure failed := by
  obtain ⟨set, isRepeated, solid⟩ := lexical
  have hfirst : ¬ place.after.head?.any set.contains := length_eq_zero_iff.mp hzero
  cases isRepeated with
  | false =>
    refine ⟨trail, ?_⟩
    show (Node.oneOf set).run kept next place trail = _
    cases hafter : place.after with
    | nil => exact oneOf_run_nil hafter
    | cons c rest =>
      rw [oneOf_run_cons hafter, if_neg]
      simpa [hafter] using hfirst
  | true =>
    have hspan : set.span place.after = 0 := hzero
    show ∃ failed, (Node.iterate 1 none .greedy (.oneOf set)).run kept next place trail = _
    by_cases hleft : place.hasLeft 1
    · rw [iterate_run set hleft, hspan]
      exact ⟨_, rfl⟩
    · exact ⟨trail, by simp [Node.run, Node.unit?, iterateSet, hleft]⟩

/-- The lexeme as a group, between white space. -/
def padded (lexical : Lexical) : Node := .seq padding (.seq (.group (some 1) lexical.node) padding)

section

variable (lexical : Lexical) (text : List Char)

/-- The text behind the lexeme. -/
def left : List Char := (begun text).drop (lexical.length (begun text))

/-- The match of the lexeme between white space. -/
def found : Match where
  length := spaces.span text + lexical.length (begun text) + spaces.span (lexical.left text)
  firstGroup := some ⟨spaces.span text, lexical.length (begun text), begun text⟩
  isCrossed := false

end

/-- What follows the white space before the lexeme. -/
private def fromLexeme (lexical : Lexical) : Continuation :=
  ⟨none, (Node.seq (.group (some 1) lexical.node) padding).run false .finish⟩

private theorem padded_run (lexical : Lexical) (place : Place) (trail : Trail) :
    lexical.padded.run false .finish place trail = padding.run false lexical.fromLexeme place trail := rfl

private theorem fromLexeme_success {lexical : Lexical} {place : Place} (hpos : lexical.length place.after ≠ 0) :
    let stop := place.ahead (lexical.length place.after)
    lexical.fromLexeme.Succeeds place [] ⟨stop.ahead (spaces.span stop.after), [some place, some stop]⟩ := by
  intro stop scan
  exact node_success rfl hpos fun _ => padding_success rfl fun _ => rfl

private theorem fromLexeme_fails {lexical : Lexical} {place : Place} (hzero : lexical.length place.after = 0) :
    lexical.fromLexeme.Fails place :=
  fun trail => node_failure hzero { trail with marks := trail.marks.put (Marks.opening 1) place }

/-- No lexeme begins with white space. -/
private theorem length_drop_eq_zero (lexical : Lexical) {text : List Char} {n : Nat} (h : n < spaces.span text) :
    lexical.length (text.drop n) = 0 := by
  have hspace := CharSet.contains_of_lt_span h
  rw [length_eq_zero_iff]
  cases hdrop : text.drop n with
  | nil => simp
  | cons c rest =>
    simp only [hdrop, List.head?_cons, Option.any_some, contains_spaces] at hspace ⊢
    exact lexical.solid c hspace

/-- The match of a lexeme between white space at the start of a text. -/
theorem match?_of_body {lexical : Lexical} {pattern : Pattern} (hbody : pattern.body = lexical.padded)
    (hleast : pattern.leastLength = 1) (text : List Char) :
    pattern.match? text = if lexical.length (begun text) = 0 then none else some (lexical.found text) := by
  simp only [Pattern.match?, hbody, hleast, padded_run]
  by_cases hzero : lexical.length (begun text) = 0
  · have hfails : ∀ n, n ≤ spaces.span text → lexical.fromLexeme.Fails ((Place.start text).ahead n) := by
      intro n hn
      refine fromLexeme_fails ?_
      -- the lexeme would begin with white space, or else behind all of it
      rcases Nat.lt_or_eq_of_le hn with hlt | rfl
      · exact length_drop_eq_zero lexical hlt
      · exact hzero
    have hfailure : ∃ failed, padding.run false lexical.fromLexeme (.start text) ⟨.start text, []⟩ = .failure failed :=
      padding_failure hfails _
    obtain ⟨failed, hfailed⟩ := hfailure
    rw [hfailed, if_pos hzero]
    split <;> rfl
  · have hleft : (Place.start text).hasLeft 1 := by
      cases text with
      | nil => exact absurd (length_eq_zero_iff.mpr (by simp [begun])) hzero
      | cons c text => rfl
    have hlexeme : lexical.length ((Place.start text).ahead (spaces.span text)).after ≠ 0 := hzero
    have hsuccess : padding.run false lexical.fromLexeme (.start text) ⟨.start text, []⟩ = .success _ :=
      padding_success rfl (fromLexeme_success hlexeme)
    rw [hleft, hsuccess, if_neg hzero]
    simp [found, left, begun, Place.ahead, Place.start, Marks.capture?, Marks.isCrossed, Marks.opening, Marks.closing]

end Lexical

end Precedence.Pattern
