import Precedence.Text.Digit
import Precedence.Text.Space

/-!
# Integer literals

An integer literal is a numeral, in the digits of any script, with an optional minus sign before it.  `toggleSign` turns
the literal of a number into one of the opposite number by its spelling alone, so leading zeros stay.
-/

namespace Precedence

/-- Whether the characters are one digit or more. -/
def isNumeral (chars : List Char) : Bool := !chars.isEmpty && chars.all Text.isDigit

/-- The numeral of a literal, without its sign. -/
def literalDigits : List Char → List Char
  | [] => []
  | c :: chars => if c = '-' then chars else c :: chars

/-- Whether the characters are an integer literal. -/
def isIntegerChars (chars : List Char) : Bool := isNumeral (literalDigits chars)

/-- Whether the text is an integer literal. -/
def isIntegerLiteral (text : String) : Bool := isIntegerChars text.toList

/-- The number that a literal stands for. -/
def literalValue (chars : List Char) : Int :=
  let magnitude : Int := Text.digitsValue (literalDigits chars)
  if chars.head? = some '-' then -magnitude else magnitude

/-- The literal with a minus sign before it, or without the one it has. -/
def toggleSign : List Char → List Char
  | [] => ['-']
  | c :: chars => if c = '-' then chars else '-' :: c :: chars

/-- The number of digits beyond which integers are neither read nor written. -/
def digitLimit : Nat := 4300

/-- What is said about too many digits. -/
def digitLimitMessage (detail : String) : String :=
  "Exceeds the limit (" ++ toString digitLimit ++ " digits) for integer string conversion" ++ detail
    ++ "; use sys.set_int_max_str_digits() to increase the limit"

/-- What is said about a literal of too many digits. -/
def literalTooLongMessage (digits : Nat) : String :=
  digitLimitMessage (": value has " ++ toString digits ++ " digits")

/-! ### Numbers as they are written by hand -/

/-- The character of ASCII that a digit or a blank of any script is read as. -/
def plainChar (c : Char) : Char :=
  if c.toNat < 127 then c
  else if Text.isSpace c then ' '
  else match Text.digitValue? c with
    | some value => value.digitChar
    | none => '?'

/-- The digits of a numeral, between which there may be single underscores. -/
def groupedDigits? : List Char → Option (List Char)
  | [] => none
  | c :: chars =>
    if !c.isDigit then none
    else match chars with
      | [] => some [c]
      | next :: rest => do return c :: (← if next = '_' then groupedDigits? rest else groupedDigits? (next :: rest))

/-- The natural number that a text stands for, with a sign if it has one and between blanks.  A number of too many
digits is not read. -/
def naturalOf? (chars : List Char) : Option Nat := do
  let isBlank (c : Char) : Bool := c = ' ' || '\t' ≤ c && c ≤ '\r'
  let text := (((chars.map plainChar).dropWhile isBlank).reverse.dropWhile isBlank).reverse
  let digits ← groupedDigits? (if text.head?.any (['+', '-'].contains ·) then text.drop 1 else text)
  let value := Text.digitsValue digits
  if digits.length > digitLimit || text.head? = some '-' && value != 0 then none else some value

end Precedence
