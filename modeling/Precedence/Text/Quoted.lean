import Precedence.Text.Printable

/-!
# Quoted texts

A text is shown between quotation marks, single ones unless it holds a single mark and no double one.  Inside,
`escape` writes a backslash before the mark in use and before a backslash, the three common control characters by
letter, other unprintable characters by their code point in the shortest of the forms `\x`, `\u` and `\U`, and every
other character as it is.
-/

namespace Precedence.Text

/-- The mark around a quoted text: the single one, unless that would have to be escaped and the double one not. -/
def quotationMark (text : List Char) : Char :=
  if text.contains '\x27' && !text.contains '\x22' then '\x22' else '\x27'

/-- A number in hexadecimal, padded with zeros to the width. -/
def hexadecimal (width n : Nat) : List Char := (Nat.toDigits 16 n).leftpad width '0'

/-- An unprintable character by its code point, with two, four or eight digits. -/
def escapeCodePoint (c : Char) : List Char :=
  if c.toNat < 0x100 then '\\' :: 'x' :: hexadecimal 2 c.toNat
  else if c.toNat < 0x10000 then '\\' :: 'u' :: hexadecimal 4 c.toNat
  else '\\' :: 'U' :: hexadecimal 8 c.toNat

/-- How a character stands between the given marks. -/
def escape (mark c : Char) : List Char :=
  if c = mark ∨ c = '\\' then ['\\', c]
  else if c = '\n' then ['\\', 'n']
  else if c = '\r' then ['\\', 'r']
  else if c = '\t' then ['\\', 't']
  else if isPrintable c then [c]
  else escapeCodePoint c

/-- The characters of a quoted text, marks included. -/
def quotedChars (text : List Char) : List Char :=
  let mark := quotationMark text
  mark :: text.flatMap (escape mark) ++ [mark]

/-- The quoted form of a text. -/
def quoted (text : String) : String := String.ofList (quotedChars text.toList)

end Precedence.Text
