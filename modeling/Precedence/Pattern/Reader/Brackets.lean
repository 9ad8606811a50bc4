import Precedence.Pattern.Reader.Escape

/-!
# Sets in brackets

The members of a set are characters, ranges and classes.  A closing bracket that comes first is a member.
-/

namespace Precedence.Pattern.Reader

variable [Runtime]

/-- The code point or the class that a lexeme within brackets stands for. -/
def setMember (lexeme : Lexeme) : Reader SetItem := do
  let c := lexeme.char
  if !lexeme.escaped then return .char c.toNat
  if let some codePoint := controlEscape? c then return .char codePoint
  if let some item := categoryEscape? (← get).options.asciiOnly c then return item
  if isOctalDigit c then
    let digits ← takeWhile isOctalDigit 2
    let value := numeral 8 (c :: digits)
    let text := escapeText c digits
    if value > 0o377 then failBefore (.octalTooLarge text) text.length
    return .char value
  let codePoint ← codePointEscape c
  return .char codePoint

/-- The range between two members of a set. -/
def rangeBetween (low high : Lexeme) (first last : SetItem) : Reader SetItem := do
  let bad := Fault.badRange low.text high.text
  let distance := low.chars.length + 1 + high.chars.length
  match first, last with
  | .char a, .char b => if b < a then failBefore bad distance else return .range a b
  | _, _ => failBefore bad distance

/-- The members of the set that starts at the position, up to the closing bracket, the last first. -/
def setMembers (start : Nat) : Nat → List SetItem → Reader (List SetItem)
  | 0, _ => fail .unterminatedSet start
  | fuel + 1, members => do
    let some low ← take? | fail .unterminatedSet start
    if low.isPlain ']' && !members.isEmpty then return members
    let first ← setMember low
    if ← accept '-' then
      let some high ← take? | fail .unterminatedSet start
      if high.isPlain ']' then return .char '-'.toNat :: first :: members
      let last ← setMember high
      setMembers start fuel ((← rangeBetween low high first last) :: members)
    else setMembers start fuel (first :: members)

/-- The set after an open bracket. -/
def bracketSet (start : Nat) : Reader Item := do
  let negated ← accept '^'
  let members ← setMembers start ((← room) + 1) []
  return .ofNode (.oneOf ⟨members.reverse.eraseDups, negated, (← get).options.folding⟩)

end Precedence.Pattern.Reader
