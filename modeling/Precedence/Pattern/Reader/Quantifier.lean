import Precedence.Pattern.Reader.Escape

/-!
# Quantifiers

A quantifier applies to the last item of the current alternative.  One mark after it may change which number of rounds
is tried first; a quantifier after that is a fault.
-/

namespace Precedence.Pattern.Reader

/-- The number of rounds from which on a repetition is refused. -/
def roundLimit : Nat := 4294967295

/-- Which number of rounds is tried first: a mark after the quantifier says so. -/
def preference : Reader Preference := do
  if ← accept '?' then return .reluctant
  else if ← accept '+' then return .possessive
  else return .greedy

/-- Repeat the last item. -/
def quantify (start least : Nat) (most : Option Nat) : Reader Unit := do
  match (← get).level.items with
  | [] => fail .nothingToRepeat start
  | item :: items =>
    match item.repeatable with
    | .no => fail .nothingToRepeat start
    | .already => fail .multipleRepeat start
    | .yes =>
      let repeated := Node.iterate least most (← preference) (.concat item.nodes)
      modify fun state => { state with level.items := ⟨[repeated], .already⟩ :: items }

/-- The bounds between braces, without the braces, or nothing if this is no quantifier. -/
def bounds? : Reader (Option (List Char × List Char)) := do
  if (← get).rest.head?.any (·.isPlain '}') then return none
  let low ← takeWhile Char.isDigit (← room)
  let size ← room
  let high ← if ← accept ',' then takeWhile Char.isDigit size else pure low
  return if ← accept '}' then some (low, high) else none

/-- The number of rounds that digits stand for. -/
def roundCount (digits : List Char) : Reader Nat := do
  if digits.length > digitLimit then throw (.repetitionTooLong digits.length)
  let count := numeral 10 digits
  if count ≥ roundLimit then throw .repetitionTooLarge
  return count

/-- The quantifier after an open brace, or else the brace itself. -/
def braces (start : Nat) : Reader Unit := do
  let here := (← get).rest
  match ← bounds? with
  | none =>
    modify fun state => { state with rest := here }
    append (single (← get).options '{'.toNat)
  | some (low, high) =>
    let least ← roundCount low
    let most ← if high.isEmpty then pure none else some <$> roundCount high
    if most.any (· < least) then fail .leastAboveMost (start + 1)
    quantify start least most

end Precedence.Pattern.Reader
