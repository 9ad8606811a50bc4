import Precedence.Pattern.Place

/-!
# Matching

A pattern is matched at the start of a text, with the alternatives tried in the order in which they are written.
`Node.run` matches a node and hands the place behind it to a continuation; a node that can match in several ways offers
them one after the other until the continuation succeeds.  So the first success is the match.

An attempt leaves a trail, also when it fails: the place at which a scan of the text has last begun or ended, and the
marks that groups have set.  Two rules look at the trail of a failure.

* A possessive repetition of more than a character goes on from where the scan of the round that failed has ended, which
  may be ahead of the last round that succeeded.
* What follows an alternative or a number of rounds that did not lead to a match finds the marks that were there before.
  Marks that were moved meanwhile go back to their places only inside of a repetition.

Alternatives, repetitions, looks and atomic groups begin a scan.  A single character, an anchor and a reference to a
group do not, nor does an alternative that begins with a listed character which is not the next one.
-/

namespace Precedence.Pattern

/-! ### Marks -/

/-- The places where the groups begin and end, by numbers: two for each group, in the order of the groups.  A mark that
has not been set is nothing, and the last one has been set. -/
abbrev Marks := List (Option Place)

/-- What a group has matched. -/
structure Capture where
  start : Nat
  length : Nat
  /-- The characters after the start, those that were not matched included. -/
  rest : List Char
  deriving DecidableEq

namespace Capture

/-- The end of what a group has matched. -/
def stop (capture : Capture) : Nat := capture.start + capture.length

/-- The characters that a group has matched. -/
def text (capture : Capture) : List Char := capture.rest.take capture.length

end Capture

namespace Marks

/-- Set a mark. -/
def put (marks : Marks) (number : Nat) (place : Place) : Marks :=
  if number < marks.length then marks.set number (some place)
  else marks ++ List.replicate (number - marks.length) none ++ [some place]

/-- The number of the mark where a group begins. -/
def opening (index : Nat) : Nat := 2 * (index - 1)

/-- The number of the mark where a group ends. -/
def closing (index : Nat) : Nat := 2 * (index - 1) + 1

/-- What a group has matched last. -/
def capture? (marks : Marks) (index : Nat) : Option Capture :=
  match marks[opening index]?.join, marks[closing index]?.join with
  | some opened, some closed =>
    if opened.position ≤ closed.position then
      some ⟨opened.position, closed.position - opened.position, opened.after⟩
    else none
  | _, _ => none

/-- Whether a group ends before it begins: its opening mark has been moved by an attempt that failed. -/
def isCrossed : Marks → Bool
  | some opened :: some closed :: marks => closed.position < opened.position || isCrossed marks
  | _ :: _ :: marks => isCrossed marks
  | _ => false

end Marks

/-! ### Attempts -/

/-- What an attempt to match leaves. -/
structure Trail where
  /-- The place at which a scan has last begun or ended. -/
  scan : Place
  marks : Marks
  deriving DecidableEq

namespace Trail

/-- A scan begins or ends. -/
def scanAt (trail : Trail) (place : Place) : Trail := { trail with scan := place }

/-- The trail with the marks that were there before an attempt.  If they are not kept, only the marks that the attempt
has added are taken away. -/
def restore (trail : Trail) (kept : Bool) (marks : Marks) : Trail :=
  { trail with marks := if kept then marks else trail.marks.take marks.length }

end Trail

/-- How an attempt to match ends. -/
inductive Attempt where
  | success (trail : Trail)
  | failure (trail : Trail)
  deriving DecidableEq

/-- What is to be matched from a place on, given the trail that led there. -/
abbrev Step := Place → Trail → Attempt

/-- What is to be matched after a node. -/
structure Continuation where
  /-- The set that the next character must be in, if the first thing to match is a listed set. -/
  lead : Option CharSet
  run : Step

/-- What matches a node and then what follows it. -/
abbrev Matcher := Continuation → Step

namespace Continuation

/-- The end of a match. -/
def finish : Continuation := ⟨none, fun place trail => .success (trail.scanAt place)⟩

/-- Whether the first thing to match is a character that does not come next. -/
def excludes (next : Continuation) (place : Place) : Bool :=
  next.lead.any fun set => set.isLiteral && !place.isBefore set

end Continuation

/-! ### Repetitions of a character -/

/-- Go on from the first of the places that leads to a match. -/
def tryPlaces (kept : Bool) (marks : Marks) (next : Continuation) : List Place → Trail → Attempt
  | [], trail => .failure trail
  | place :: places, trail =>
    if next.excludes place then tryPlaces kept marks next places trail
    else match next.run place (trail.scanAt place) with
      | .success trail => .success trail
      | .failure trail => tryPlaces kept marks next places (trail.restore kept marks)

/-- Go on from the place, or else from the first of the places behind it that leads to a match.  These are reached
through characters of the set, at most so many of them and out of the given characters after the place. -/
def trySteps (kept : Bool) (marks : Marks) (next : Continuation) (set : CharSet) :
    (most : Option Nat) → List Char → Step
  | _, [], place, trail =>
    match next.run place (trail.scanAt place) with
    | .success trail => .success trail
    | .failure trail => .failure ((trail.restore kept marks).scanAt place)
  | most, c :: rest, place, trail =>
    match next.run place (trail.scanAt place) with
    | .success trail => .success trail
    | .failure trail =>
      let trail := (trail.restore kept marks).scanAt place
      if most != some 0 && set.contains c then
        trySteps kept marks next set (most.map (· - 1)) rest (place.advance c rest) trail
      else .failure trail

/-- A repetition of a character of the set. -/
def iterateSet (kept : Bool) (least : Nat) (most : Option Nat) (preference : Preference) (set : CharSet) :
    Matcher := fun next place trail =>
  if !place.hasLeft least then .failure trail
  else
    let trail := trail.scanAt place
    match preference with
    | .greedy =>
      let places := Place.through set most place.after place []
      tryPlaces kept trail.marks next (places.take (places.length - least)) trail
    | .possessive =>
      let places := Place.through set most place.after place []
      match places.take (places.length - least) with
      | [] => .failure trail
      | farthest :: _ => next.run farthest trail
    | .reluctant =>
      match Place.through set (some least) place.after place [] with
      | [] => .failure trail
      | first :: before =>
        if before.length = least then
          trySteps kept trail.marks next set (most.map (· - least)) first.after first trail
        else .failure trail

/-! ### Repetitions

A round that does not move on is the last one, and any other uses up at least one of the characters that are left.  So
the loops below recurse on those characters, the `room`; without room there is at most one more round. -/

/-- Whether another round may begin: there are rounds left, and the round before it has moved on. -/
def mayIterate (most : Option Nat) (last : Option Nat) (place : Place) : Bool :=
  most != some 0 && last != some place.position

/-- What follows the rounds; if it fails, the scan is back where the rounds ended. -/
def leave (next : Continuation) : Step := fun place trail =>
  match next.run place (trail.scanAt place) with
  | .success trail => .success trail
  | .failure trail => .failure (trail.scanAt place)

/-- Exactly the given number of rounds. -/
def exactly (body : Matcher) : Nat → Step → Step
  | 0, next, place, trail => next place trail
  | rounds + 1, next, place, trail =>
    match body ⟨none, exactly body rounds next⟩ place (trail.scanAt place) with
    | .success trail => .success trail
    | .failure trail => .failure (trail.scanAt place)

/-- Another round and what follows it, or else what follows the rounds before it. -/
def roundOrLeave (body : Matcher) (next : Continuation) (again : Step) : Step := fun place trail =>
  match body ⟨none, again⟩ place (trail.scanAt place) with
  | .success trail => .success trail
  | .failure failed => leave next place { failed with marks := trail.marks }

/-- Further rounds, as many as possible first. -/
def greedily (body : Matcher) (next : Continuation) : (room : List Char) → (most last : Option Nat) → Step
  | [], most, last, place, trail =>
    if mayIterate most last place then roundOrLeave body next (leave next) place trail
    else leave next place trail
  | _ :: room, most, last, place, trail =>
    if mayIterate most last place then
      roundOrLeave body next (greedily body next room (most.map (· - 1)) (some place.position)) place trail
    else leave next place trail

/-- What follows the rounds, or else another round if there may be one. -/
def leaveOrRound (kept : Bool) (body : Matcher) (next : Continuation) (isAllowed : Bool) (again : Step) : Step :=
  fun place trail =>
    match next.run place (trail.scanAt place) with
    | .success trail => .success trail
    | .failure failed =>
      let trail := (failed.restore kept trail.marks).scanAt place
      if !isAllowed then .failure trail
      else match body ⟨none, again⟩ place trail with
        | .success trail => .success trail
        | .failure trail => .failure (trail.scanAt place)

/-- Further rounds, as few as possible first. -/
def reluctantly (kept : Bool) (body : Matcher) (next : Continuation) :
    (room : List Char) → (most last : Option Nat) → Step
  | [], most, last, place, trail =>
    let again := leaveOrRound kept body next false fun _ trail => .failure trail
    leaveOrRound kept body next (mayIterate most last place) again place trail
  | _ :: room, most, last, place, trail =>
    let again := reluctantly kept body next room (most.map (· - 1)) (some place.position)
    leaveOrRound kept body next (mayIterate most last place) again place trail

/-- The required rounds of a possessive repetition, each in the first way it matches and from where the scan has ended
with the round before. -/
def exactlyPossessive (body : Matcher) : Nat → Trail → Attempt
  | 0, trail => .success trail
  | rounds + 1, trail =>
    match body .finish trail.scan trail with
    | .success trail => exactlyPossessive body rounds trail
    | .failure trail => .failure trail

/-- Further rounds of a possessive repetition, until one fails.  The scan stays where that one has left it. -/
def possessively (body : Matcher) : (room : List Char) → (most last : Option Nat) → Trail → Trail
  | [], most, last, trail =>
    if mayIterate most last trail.scan then
      match body .finish trail.scan trail with
      | .success trail => trail
      | .failure failed => { failed with marks := trail.marks }
    else trail
  | _ :: room, most, last, trail =>
    if mayIterate most last trail.scan then
      match body .finish trail.scan trail with
      | .success moved => possessively body room (most.map (· - 1)) (some trail.scan.position) moved
      | .failure failed => { failed with marks := trail.marks }
    else trail

/-- The rounds of a repetition: those that are required, then those that are allowed.  `kept` is about the marks of what
follows it. -/
def iterate (kept : Bool) (least : Nat) (most : Option Nat) (preference : Preference) (body : Matcher) : Matcher :=
  fun next place trail =>
    let allowed := most.map (· - least)
    match preference with
    | .greedy => exactly body least (fun place => greedily body next place.after allowed none place) place trail
    | .reluctant =>
      exactly body least (fun place => reluctantly kept body next place.after allowed none place) place trail
    | .possessive =>
      match exactlyPossessive body least (trail.scanAt place) with
      | .success trail =>
        let trail := possessively body trail.scan.after allowed none trail
        next.run trail.scan trail
      | .failure trail => .failure (trail.scanAt place)

/-! ### Nodes -/

/-- Match a look ahead or behind, which ends where it begins. -/
def lookAround (kept negated : Bool) (body : Matcher) (start? : Option Place) (next : Continuation) : Step :=
  fun place trail =>
    match start?, negated with
    | none, false => .failure trail
    | none, true => next.run place trail
    | some start, false =>
      match body .finish start (trail.scanAt start) with
      | .success trail => next.run place trail
      | .failure trail => .failure trail
    | some start, true =>
      match body .finish start (trail.scanAt start) with
      | .success trail => .failure trail
      | .failure failed => next.run place (failed.restore kept trail.marks)

/-- Match the node at the place, and then what follows it.  Marks are kept inside of a repetition. -/
def Node.run : Node → (kept : Bool) → Matcher
  | empty, _, next, place, trail => next.run place trail
  | fail, _, _, _, trail => .failure trail
  | oneOf set, _, next, place, trail =>
    match place.after with
    | [] => .failure trail
    | c :: rest => if set.contains c then next.run (place.advance c rest) trail else .failure trail
  | anchor a, _, next, place, trail =>
    if place.satisfies a then next.run place trail else .failure trail
  | seq first second, kept, next, place, trail =>
    first.run kept ⟨second.lead next.lead, second.run kept next⟩ place trail
  | alt first rest, kept, next, place, trail =>
    if (first.lead none).any (!place.isBefore ·) then rest.run kept next place trail
    else match first.run kept ⟨none, next.run⟩ place (trail.scanAt place) with
      | .success trail => .success trail
      | .failure failed => rest.run kept next place (failed.restore kept trail.marks)
  | group none body, kept, next, place, trail => body.run kept next place trail
  | group (some index) body, kept, next, place, trail =>
    let close : Step := fun closed trail =>
      next.run closed { trail with marks := trail.marks.put (Marks.closing index) closed }
    body.run kept ⟨none, close⟩ place { trail with marks := trail.marks.put (Marks.opening index) place }
  | again index folding, _, next, place, trail =>
    match (trail.marks.capture? index).bind fun capture => place.skip? folding capture.text with
    | some behind => next.run behind trail
    | none => .failure trail
  | iterate least most preference body, kept, next, place, trail =>
    match body.unit? with
    | some set => iterateSet kept least most preference set next place trail
    | none =>
      Pattern.iterate kept least most preference (body.run (kept || preference != .possessive)) next place trail
  | look behind negated body, kept, next, place, trail =>
    let start? := match behind with
      | some distance => place.retreat? distance
      | none => some place
    lookAround kept negated (body.run kept) start? next place trail
  | atomic body, kept, next, place, trail =>
    match body.run kept .finish place (trail.scanAt place) with
    | .success trail => next.run trail.scan trail
    | .failure trail => .failure (trail.scanAt place)
  | ifGroup index yes no, kept, next, place, trail =>
    if (trail.marks.capture? index).isSome then
      let lead := match no with
        | empty => next.lead
        | _ => none
      yes.run kept ⟨lead, next.run⟩ place trail
    else no.run kept next place trail

end Precedence.Pattern

namespace Precedence

/-- A regular expression with its text. -/
structure Pattern where
  source : String
  body : Pattern.Node
  /-- A text with fewer characters is not matched. -/
  leastLength : Nat
  deriving DecidableEq

/-- A match at the start of a text. -/
structure Pattern.Match where
  /-- The number of characters matched. -/
  length : Nat
  /-- What the first group has matched, if it took part. -/
  firstGroup : Option Pattern.Capture
  /-- A group has been left with its end before its start, so there is no text for it. -/
  isCrossed : Bool
  deriving DecidableEq

/-- The match of the pattern at the start of the text. -/
def Pattern.match? (pattern : Pattern) (text : List Char) : Option Pattern.Match :=
  let start := Pattern.Place.start text
  if !start.hasLeft pattern.leastLength then none
  else match pattern.body.run false .finish start ⟨start, []⟩ with
    | .success trail => some ⟨trail.scan.position, trail.marks.capture? 1, trail.marks.isCrossed⟩
    | .failure _ => none

end Precedence
