import Precedence.Pattern.Reader.Basic
import Precedence.Runtime

/-!
# Escapes

What a character after a backslash stands for: a place, a class, a control character, a code point by its number, an
earlier group by its index, or itself.
-/

namespace Precedence.Pattern.Reader

variable [Runtime]

/-- The value of a numeral in a base up to sixteen. -/
def numeral (base : Nat) (digits : List Char) : Nat :=
  digits.foldl (fun value c =>
    value * base + (if c.isDigit then c.toNat - '0'.toNat else c.toLower.toNat - 'a'.toNat + 10)) 0

def isHexDigit (c : Char) : Bool := c.isDigit || 'a' ≤ c && c ≤ 'f' || 'A' ≤ c && c ≤ 'F'

def isOctalDigit (c : Char) : Bool := '0' ≤ c && c ≤ '7'

/-- The code points of the escaped letters that stand for control characters. -/
def controlEscape? : Char → Option Nat
  | 'a' => some 7
  | 'b' => some 8
  | 'f' => some 12
  | 'n' => some 10
  | 'r' => some 13
  | 't' => some 9
  | 'v' => some 11
  | '\\' => some 92
  | _ => none

/-- The class that an escaped letter stands for. -/
def categoryEscape? (asciiOnly : Bool) : Char → Option SetItem
  | 'd' => some (.named .digit asciiOnly false)
  | 'D' => some (.named .digit asciiOnly true)
  | 's' => some (.named .space asciiOnly false)
  | 'S' => some (.named .space asciiOnly true)
  | 'w' => some (.named .word asciiOnly false)
  | 'W' => some (.named .word asciiOnly true)
  | _ => none

/-- The place that an escaped letter stands for. -/
def anchorEscape? (asciiOnly : Bool) : Char → Option Anchor
  | 'A' => some .textStart
  | 'Z' => some .textEnd
  | 'b' => some (.boundary asciiOnly)
  | 'B' => some (.noBoundary asciiOnly)
  | _ => none

/-- An escaped character with the digits that belong to it. -/
def escapeText (c : Char) (digits : List Char) : String := String.ofList ('\\' :: c :: digits)

/-- A code point in hexadecimal, with exactly the given number of digits. -/
def hexEscape (c : Char) (width : Nat) : Reader Nat := do
  let digits ← takeWhile isHexDigit width
  let text := escapeText c digits
  if digits.length ≠ width then failBefore (.incompleteEscape text) text.length
  let value := numeral 16 digits
  if value > 0x10FFFF then failBefore (.badEscape text) text.length
  return value

/-- The text up to the terminator, which must not be empty. -/
def textUntil (terminator : Char) (missing : Fault) : Nat → List Char → Reader (List Char)
  | 0, _ => failBefore missing 0
  | fuel + 1, read => do
    match ← take? with
    | none =>
      if read.isEmpty then failBefore missing 0
      else failBefore (.unterminatedName terminator.toString) read.length
    | some lexeme =>
      if lexeme.isPlain terminator then
        if read.isEmpty then failBefore missing 1
        return read
      textUntil terminator missing fuel (read ++ lexeme.chars)

/-- An escape by the name of a character. -/
def namedEscape : Reader Nat := do
  if !(← accept '\x7b') then failBefore .missingBrace 0
  let name ← textUntil '\x7d' .missingCharacterName ((← room) + 1) []
  match Runtime.characterNamed? (String.ofList name) with
  | some codePoint => return codePoint
  | none => failBefore (.undefinedCharacterName (String.ofList name)) (name.length + 4)

/-- The code point of an escape that means the same within brackets and outside. -/
def codePointEscape (c : Char) : Reader Nat := do
  if c = 'x' then hexEscape c 2
  else if c = 'u' then hexEscape c 4
  else if c = 'U' then hexEscape c 8
  else if c = 'N' then namedEscape
  else if c.isAlphanum then failBefore (.badEscape (escapeText c [])) 2
  else return c.toNat

/-- A code point that stands for itself. -/
def single (options : Options) (codePoint : Nat) : Item := .ofNode (.oneOf (.single codePoint options.folding))

/-- Report a reference to a group that is open, or that belongs to the look-behind around the reference. -/
def checkReference (index distance : Nat) : Reader Unit := do
  let state ← get
  if (state.widths.lookup index).isNone then failBefore .openGroup distance
  if state.lookBehind.any (· < index) then failBefore .groupInSameLook 0

/-- The octal code point or the group that a digit after a backslash stands for. -/
def digitEscape (options : Options) (c : Char) : Reader Item := do
  if c = '0' then
    let digits ← takeWhile isOctalDigit 2
    return single options (numeral 8 (c :: digits))
  let second ← takeWhile Char.isDigit 1
  let third ← if isOctalDigit c && !second.isEmpty && second.all isOctalDigit then takeWhile isOctalDigit 1 else pure []
  if !third.isEmpty then
    let value := numeral 8 (c :: second ++ third)
    let text := escapeText c (second ++ third)
    if value > 0o377 then failBefore (.octalTooLarge text) text.length
    return single options value
  let index := numeral 10 (c :: second)
  let width := 2 + second.length
  if (← get).groupCount < index then failBefore (.invalidGroup index) (width - 1)
  checkReference index width
  return .ofNode (.again index options.folding)

/-- The item that an escaped character stands for. -/
def escape (c : Char) : Reader Item := do
  let options := (← get).options
  if let some anchor := anchorEscape? options.asciiOnly c then return .ofAnchor anchor
  if let some item := categoryEscape? options.asciiOnly c then
    return .ofNode (.oneOf ⟨[item], false, options.folding⟩)
  if let some codePoint := controlEscape? c then return single options codePoint
  if c.isDigit then digitEscape options c
  else return single options (← codePointEscape c)

end Precedence.Pattern.Reader
