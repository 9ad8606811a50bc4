import Precedence.Pattern.Matching

/-!
# Matches lie within the text

Every place that an attempt to match reaches is a place of the text, and so are the places of the marks that groups
set.  A step that leaves only such places behind `Stays`; what is composed of steps that stay does too, and so does a
node, by induction on it (`Node.run_stays`).  Hence a match is no longer than the text, and what a group has captured is
a part of the text (`match?_within`).
-/

namespace Precedence.Pattern

/-! ### Places of a text -/

/-- The place is one of the text. -/
structure Place.IsOf (text : List Char) (place : Place) : Prop where
  text_eq : place.before.reverse ++ place.after = text
  position_eq : place.position = place.before.length

namespace Place.IsOf

variable {text : List Char} {place : Place}

theorem start (text : List Char) : (Place.start text).IsOf text := ⟨rfl, rfl⟩

theorem advance {c : Char} {rest : List Char} (h : place.IsOf text) (hafter : place.after = c :: rest) :
    (place.advance c rest).IsOf text := by
  constructor
  · simpa [Place.advance, hafter] using h.text_eq
  · simp [Place.advance, h.position_eq]

theorem position_le (h : place.IsOf text) : place.position ≤ text.length := by
  simp [h.position_eq, ← h.text_eq]

theorem after_eq (h : place.IsOf text) : place.after = text.drop place.position := by
  simp [h.position_eq, ← h.text_eq]

theorem retreat? {distance : Nat} {behind : Place} (h : place.IsOf text)
    (hback : place.retreat? distance = some behind) :
    behind.IsOf text := by
  unfold Place.retreat? at hback
  dsimp only at hback
  split at hback
  · cases hback
    constructor
    · rw [← List.append_assoc, ← List.reverse_append, List.take_append_drop]
      exact h.text_eq
    · simp only [List.length_drop, h.position_eq]
  · cases hback

theorem skip? {folding : Folding} {expected : List Char} {behind : Place} (h : place.IsOf text)
    (hskip : place.skip? folding expected = some behind) : behind.IsOf text := by
  induction expected generalizing place with
  | nil =>
    cases hskip
    exact h
  | cons c expected ih =>
    unfold Place.skip? at hskip
    split at hskip
    · cases hskip
    · rename_i hafter
      split at hskip
      · exact ih (h.advance hafter) hskip
      · cases hskip

theorem of_mem_through {set : CharSet} {most : Option Nat} {rest : List Char} {places : List Place}
    (h : place.IsOf text) (hrest : place.after = rest) (hplaces : ∀ p ∈ places, p.IsOf text) :
    ∀ p ∈ Place.through set most rest place places, p.IsOf text := by
  induction rest generalizing most place places with
  | nil => simpa [Place.through] using ⟨h, hplaces⟩
  | cons c rest ih =>
    have hall : ∀ p ∈ place :: places, p.IsOf text := List.forall_mem_cons.mpr ⟨h, hplaces⟩
    unfold Place.through
    split
    · exact ih (h.advance hrest) rfl hall
    · exact hall

end Place.IsOf

/-! ### Steps that stay within the text -/

/-- The marks are places of the text. -/
def Marks.AreOf (text : List Char) (marks : Marks) : Prop := ∀ place, some place ∈ marks → place.IsOf text

/-- The trail leads through places of the text. -/
structure Trail.IsOf (text : List Char) (trail : Trail) : Prop where
  scan : trail.scan.IsOf text
  marks : Marks.AreOf text trail.marks

/-- The attempt leaves a trail of the text. -/
def Attempt.IsOf (text : List Char) : Attempt → Prop
  | success trail | failure trail => trail.IsOf text

/-- The step leaves a trail of the text if it starts from one. -/
def Stays (text : List Char) (step : Step) : Prop :=
  ∀ ⦃place trail⦄, place.IsOf text → trail.IsOf text → (step place trail).IsOf text

/-- What is matched by the matcher stays within the text if what follows does. -/
def Matcher.Stays (text : List Char) (body : Matcher) : Prop :=
  ∀ next : Continuation, Pattern.Stays text next.run → Pattern.Stays text (body next)

variable {text : List Char}

namespace Marks.AreOf

theorem nil : AreOf text [] := fun _ h => nomatch h

theorem put {marks : Marks} {place : Place} (h : AreOf text marks) (hplace : place.IsOf text) (number : Nat) :
    AreOf text (marks.put number place) := by
  intro p hp
  unfold Marks.put at hp
  split at hp
  · rcases List.mem_or_eq_of_mem_set hp with hold | hnew
    · exact h p hold
    · cases hnew
      exact hplace
  · simp only [List.mem_append, List.mem_replicate, reduceCtorEq, and_false, or_false, List.mem_singleton,
      Option.some.injEq] at hp
    rcases hp with hold | rfl
    · exact h p hold
    · exact hplace

theorem take {marks : Marks} (h : AreOf text marks) (count : Nat) : AreOf text (marks.take count) :=
  fun p hp => h p (List.mem_of_mem_take hp)

theorem of_getElem? {marks : Marks} {number : Nat} {place : Place} (h : AreOf text marks)
    (hplace : marks[number]?.join = some place) : place.IsOf text := by
  rw [Option.join_eq_some_iff] at hplace
  exact h place (List.mem_of_getElem? hplace)

/-- What a group has captured is a part of the text. -/
theorem capture? {marks : Marks} {index : Nat} {capture : Capture} (h : AreOf text marks)
    (hcapture : marks.capture? index = some capture) :
    capture.rest = text.drop capture.start ∧ capture.stop ≤ text.length := by
  unfold Marks.capture? at hcapture
  split at hcapture
  · rename_i opened closed hopened hclosed
    split at hcapture
    · rename_i hle
      cases hcapture
      refine ⟨(h.of_getElem? hopened).after_eq, ?_⟩
      have := (h.of_getElem? hclosed).position_le
      simp only [Capture.stop]
      omega
    · cases hcapture
  · cases hcapture

end Marks.AreOf

namespace Trail.IsOf

variable {trail : Trail}

theorem scanAt {place : Place} (h : trail.IsOf text) (hplace : place.IsOf text) : (trail.scanAt place).IsOf text :=
  ⟨hplace, h.marks⟩

theorem withMarks {marks : Marks} (h : trail.IsOf text) (hmarks : Marks.AreOf text marks) :
    Trail.IsOf text { trail with marks := marks } :=
  ⟨h.scan, hmarks⟩

theorem restore (h : trail.IsOf text) (kept : Bool) {marks : Marks} (hmarks : Marks.AreOf text marks) :
    (trail.restore kept marks).IsOf text := by
  refine ⟨h.scan, ?_⟩
  unfold Trail.restore
  cases kept
  · exact h.marks.take _
  · exact hmarks

end Trail.IsOf

/-- What is made of an attempt is good if it is after either end. -/
theorem Attempt.IsOf.andThen {β : Type} {good : β → Prop} {attempt : Attempt} (h : attempt.IsOf text)
    {proceed recover : Trail → β} (hproceed : ∀ ⦃trail⦄, trail.IsOf text → good (proceed trail))
    (hrecover : ∀ ⦃trail⦄, trail.IsOf text → good (recover trail)) :
    good (match attempt with
      | .success trail => proceed trail
      | .failure trail => recover trail) := by
  cases attempt with
  | success trail => exact hproceed h
  | failure trail => exact hrecover h

/-- An attempt that goes on after a failure leaves a trail of the text if what follows does. -/
theorem Attempt.IsOf.orElse {attempt : Attempt} (h : attempt.IsOf text) {recover : Trail → Attempt}
    (hrecover : ∀ ⦃trail⦄, trail.IsOf text → (recover trail).IsOf text) :
    Attempt.IsOf text (match attempt with
      | .success trail => .success trail
      | .failure trail => recover trail) :=
  h.andThen (fun _ hsuccess => hsuccess) hrecover

theorem finish_stays : Stays text Continuation.finish.run :=
  fun _ _ hplace htrail => htrail.scanAt hplace

/-! ### Repetitions of a character -/

section

variable {next : Continuation} (hnext : Stays text next.run)
include hnext

theorem tryPlaces_isOf {kept : Bool} {marks : Marks} (hmarks : Marks.AreOf text marks) {places : List Place}
    (hplaces : ∀ p ∈ places, p.IsOf text) {trail : Trail} (htrail : trail.IsOf text) :
    (tryPlaces kept marks next places trail).IsOf text := by
  induction places generalizing trail with
  | nil => exact htrail
  | cons place places ih =>
    obtain ⟨hplace, hplaces⟩ := List.forall_mem_cons.mp hplaces
    unfold tryPlaces
    split
    · exact ih hplaces htrail
    · exact (hnext hplace (htrail.scanAt hplace)).orElse fun _ hfailed => ih hplaces (hfailed.restore _ hmarks)

theorem trySteps_isOf {kept : Bool} {marks : Marks} (hmarks : Marks.AreOf text marks) {set : CharSet}
    {most : Option Nat} {rest : List Char} {place : Place} {trail : Trail} (hrest : place.after = rest)
    (hplace : place.IsOf text) (htrail : trail.IsOf text) :
    (trySteps kept marks next set most rest place trail).IsOf text := by
  induction rest generalizing most place trail with
  | nil => exact (hnext hplace (htrail.scanAt hplace)).orElse fun _ hfailed => (hfailed.restore _ hmarks).scanAt hplace
  | cons c rest ih =>
    refine (hnext hplace (htrail.scanAt hplace)).orElse fun failed hfailed => ?_
    have hback := (hfailed.restore kept hmarks).scanAt hplace
    dsimp only
    split
    · exact ih rfl (hplace.advance hrest) hback
    · exact hback

theorem iterateSet_stays (kept : Bool) (least : Nat) (most : Option Nat) (preference : Preference) (set : CharSet) :
    Stays text (iterateSet kept least most preference set next) := by
  intro place trail hplace htrail
  have hthrough : ∀ most, ∀ p ∈ Place.through set most place.after place [], p.IsOf text := fun _ =>
    hplace.of_mem_through rfl fun _ h => nomatch h
  unfold iterateSet
  split
  · exact htrail
  · have hscan := htrail.scanAt hplace
    cases preference with
    | greedy => exact tryPlaces_isOf hnext hscan.marks (fun p hp => hthrough _ p (List.mem_of_mem_take hp)) hscan
    | possessive =>
      dsimp only
      split
      · exact hscan
      · rename_i farthest _ heq
        exact hnext (hthrough _ farthest (List.mem_of_mem_take (heq ▸ List.mem_cons_self))) hscan
    | reluctant =>
      dsimp only
      split
      · exact hscan
      · rename_i first _ heq
        split
        · exact trySteps_isOf hnext hscan.marks rfl (hthrough _ first (heq ▸ List.mem_cons_self)) hscan
        · exact hscan

end

/-! ### Repetitions -/

section

variable {body : Matcher} (hbody : body.Stays text) {next : Continuation} (hnext : Stays text next.run)

include hnext in
theorem leave_stays : Stays text (leave next) := fun _ _ hplace htrail =>
  (hnext hplace (htrail.scanAt hplace)).orElse fun _ hfailed => hfailed.scanAt hplace

include hbody

theorem exactly_stays (rounds : Nat) {step : Step} (hstep : Stays text step) :
    Stays text (exactly body rounds step) := by
  induction rounds with
  | zero => exact hstep
  | succ rounds ih =>
    exact fun _ _ hplace htrail =>
      (hbody ⟨none, _⟩ ih hplace (htrail.scanAt hplace)).orElse fun _ hfailed => hfailed.scanAt hplace

theorem exactlyPossessive_isOf (rounds : Nat) {trail : Trail} (htrail : trail.IsOf text) :
    (exactlyPossessive body rounds trail).IsOf text := by
  induction rounds generalizing trail with
  | zero => exact htrail
  | succ rounds ih => exact (hbody .finish finish_stays htrail.scan htrail).andThen (fun _ h => ih h) fun _ h => h

theorem possessively_isOf {room : List Char} {most last : Option Nat} {trail : Trail} (htrail : trail.IsOf text) :
    (possessively body room most last trail).IsOf text := by
  induction room generalizing most last trail with
  | nil =>
    unfold possessively
    split
    · exact (hbody .finish finish_stays htrail.scan htrail).andThen (fun _ h => h) fun _ h => h.withMarks htrail.marks
    · exact htrail
  | cons _ room ih =>
    unfold possessively
    split
    · exact (hbody .finish finish_stays htrail.scan htrail).andThen (fun _ h => ih h) fun _ h =>
        h.withMarks htrail.marks
    · exact htrail

include hnext

theorem roundOrLeave_stays {again : Step} (hagain : Stays text again) :
    Stays text (roundOrLeave body next again) := fun _ _ hplace htrail =>
  (hbody ⟨none, _⟩ hagain hplace (htrail.scanAt hplace)).orElse fun _ hfailed =>
    leave_stays hnext hplace (hfailed.withMarks htrail.marks)

theorem greedily_stays (room : List Char) (most last : Option Nat) :
    Stays text (greedily body next room most last) := by
  induction room generalizing most last with
  | nil =>
    intro place trail hplace htrail
    unfold greedily
    split
    · exact roundOrLeave_stays hbody hnext (leave_stays hnext) hplace htrail
    · exact leave_stays hnext hplace htrail
  | cons _ room ih =>
    intro place trail hplace htrail
    unfold greedily
    split
    · exact roundOrLeave_stays hbody hnext (ih _ _) hplace htrail
    · exact leave_stays hnext hplace htrail

theorem leaveOrRound_stays (kept isAllowed : Bool) {again : Step} (hagain : Stays text again) :
    Stays text (leaveOrRound kept body next isAllowed again) := by
  intro place trail hplace htrail
  refine (hnext hplace (htrail.scanAt hplace)).orElse fun failed hfailed => ?_
  have hback := (hfailed.restore kept htrail.marks).scanAt hplace
  dsimp only
  split
  · exact hback
  · exact (hbody ⟨none, _⟩ hagain hplace hback).orElse fun _ hfailed => hfailed.scanAt hplace

theorem reluctantly_stays (kept : Bool) (room : List Char) (most last : Option Nat) :
    Stays text (reluctantly kept body next room most last) := by
  induction room generalizing most last with
  | nil =>
    have hfail : Stays text (leaveOrRound kept body next false fun _ trail => .failure trail) :=
      leaveOrRound_stays hbody hnext kept false fun _ _ _ htrail => htrail
    exact fun _ _ hplace htrail => leaveOrRound_stays hbody hnext kept _ hfail hplace htrail
  | cons _ room ih =>
    exact fun _ _ hplace htrail => leaveOrRound_stays hbody hnext kept _ (ih _ _) hplace htrail

theorem iterate_stays (kept : Bool) (least : Nat) (most : Option Nat) (preference : Preference) :
    Stays text (Pattern.iterate kept least most preference body next) := by
  intro place trail hplace htrail
  cases preference with
  | greedy =>
    have hrounds : Stays text fun place => greedily body next place.after (most.map (· - least)) none place :=
      fun _ _ hplace htrail => greedily_stays hbody hnext _ _ _ hplace htrail
    exact exactly_stays hbody least hrounds hplace htrail
  | reluctant =>
    have hrounds : Stays text fun place => reluctantly kept body next place.after (most.map (· - least)) none place :=
      fun _ _ hplace htrail => reluctantly_stays hbody hnext kept _ _ _ hplace htrail
    exact exactly_stays hbody least hrounds hplace htrail
  | possessive =>
    refine (exactlyPossessive_isOf hbody least (htrail.scanAt hplace)).andThen (fun required hrequired => ?_)
      fun _ hfailed => hfailed.scanAt hplace
    have hrounds : (possessively body required.scan.after (most.map (· - least)) none required).IsOf text :=
      possessively_isOf hbody hrequired
    exact hnext hrounds.scan hrounds

theorem lookAround_stays (kept negated : Bool) {start? : Option Place}
    (hstart : ∀ start, start? = some start → start.IsOf text) :
    Stays text (lookAround kept negated body start? next) := by
  intro place trail hplace htrail
  unfold lookAround
  cases start? with
  | none =>
    cases negated
    · exact htrail
    · exact hnext hplace htrail
  | some start =>
    have hlook := hbody .finish finish_stays (hstart start rfl) (htrail.scanAt (hstart start rfl))
    cases negated
    · exact hlook.andThen (fun _ h => hnext hplace h) fun _ h => h
    · exact hlook.andThen (fun _ h => h) fun _ h => hnext hplace (h.restore _ htrail.marks)

end

/-! ### Nodes -/

/-- Matching a node stays within the text. -/
theorem Node.run_stays (node : Node) (kept : Bool) : (node.run kept).Stays text := by
  induction node generalizing kept with
  | empty => exact fun _ hnext => hnext
  | fail => exact fun _ _ _ _ _ htrail => htrail
  | oneOf set =>
    intro next hnext place trail hplace htrail
    unfold Node.run
    split
    · exact htrail
    · rename_i hafter
      split
      · exact hnext (hplace.advance hafter) htrail
      · exact htrail
  | anchor a =>
    intro next hnext place trail hplace htrail
    unfold Node.run
    split
    · exact hnext hplace htrail
    · exact htrail
  | seq first second ihfirst ihsecond =>
    exact fun next hnext => ihfirst kept ⟨_, _⟩ (ihsecond kept next hnext)
  | alt first rest ihfirst ihrest =>
    intro next hnext place trail hplace htrail
    unfold Node.run
    split
    · exact ihrest kept next hnext hplace htrail
    · exact (ihfirst kept ⟨none, _⟩ hnext hplace (htrail.scanAt hplace)).orElse fun _ hfailed =>
        ihrest kept next hnext hplace (hfailed.restore _ htrail.marks)
  | group index? body ih =>
    cases index? with
    | none => exact fun next hnext => ih kept next hnext
    | some index =>
      intro next hnext place trail hplace htrail
      have hclose : Stays text fun closed trail =>
          next.run closed { trail with marks := trail.marks.put (Marks.closing index) closed } :=
        fun _ _ hclosed htrail => hnext hclosed (htrail.withMarks (htrail.marks.put hclosed _))
      exact ih kept ⟨none, _⟩ hclose hplace (htrail.withMarks (htrail.marks.put hplace _))
  | again index folding =>
    intro next hnext place trail hplace htrail
    unfold Node.run
    split
    · rename_i behind hbehind
      obtain ⟨capture, -, hskip⟩ := Option.bind_eq_some_iff.mp hbehind
      exact hnext (hplace.skip? hskip) htrail
    · exact htrail
  | iterate least most preference body ih =>
    intro next hnext place trail hplace htrail
    unfold Node.run
    split
    · exact iterateSet_stays hnext _ _ _ _ _ hplace htrail
    · exact iterate_stays (ih _) hnext _ _ _ _ hplace htrail
  | look behind negated body ih =>
    intro next hnext place trail hplace htrail
    refine lookAround_stays (ih kept) hnext kept negated (fun start hstart => ?_) hplace htrail
    cases behind with
    | none =>
      cases hstart
      exact hplace
    | some distance => exact hplace.retreat? hstart
  | atomic body ih =>
    intro next hnext place trail hplace htrail
    exact (ih kept .finish finish_stays hplace (htrail.scanAt hplace)).andThen (fun _ h => hnext h.scan h)
      fun _ h => h.scanAt hplace
  | ifGroup index yes no ihyes ihno =>
    intro next hnext place trail hplace htrail
    have hyes : ∀ lead, Stays text (yes.run kept ⟨lead, next.run⟩) := fun lead =>
      ihyes kept ⟨lead, next.run⟩ hnext
    unfold Node.run
    split
    · exact hyes _ hplace htrail
    · exact ihno kept next hnext hplace htrail

end Precedence.Pattern

namespace Precedence

/-- A match is no longer than the text, and what its first group has captured is a part of the text. -/
theorem Pattern.match?_within {pattern : Pattern} {text : List Char} {found : Pattern.Match}
    (h : pattern.match? text = some found) :
    found.length ≤ text.length ∧ ∀ capture, found.firstGroup = some capture →
      capture.rest = text.drop capture.start ∧ capture.stop ≤ text.length := by
  have hstart := Place.IsOf.start text
  have hrun : (pattern.body.run false .finish (.start text) ⟨.start text, []⟩).IsOf text :=
    pattern.body.run_stays false .finish finish_stays hstart ⟨hstart, .nil⟩
  unfold Pattern.match? at h
  dsimp only at h
  split at h
  · cases h
  · split at h
    · rename_i heq
      rw [heq] at hrun
      cases h
      exact ⟨hrun.scan.position_le, fun _ hcapture => hrun.marks.capture? hcapture⟩
    · cases h

end Precedence
