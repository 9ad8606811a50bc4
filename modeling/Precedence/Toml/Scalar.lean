import Precedence.Number.Rounding
import Precedence.Toml.Error
import Precedence.Toml.Value

/-!
# Strings, numbers and moments

The values of a document that hold no other values.  Every reader takes a text and returns what it has read with the
part of the text behind it.
-/

namespace Precedence.Toml

/-- Whether the character is a space or a tab. -/
def isBlank (c : Char) : Bool := c == ' ' || c == '\t'

/-- Whether the character is a space, a tab or a newline. -/
def isBlankOrNewline (c : Char) : Bool := isBlank c || c == '\n'

/-- Whether the character may not stand in a line: a control character other than the tab. -/
def isIllegal (c : Char) : Bool := (c.toNat < 32 || c.toNat = 127) && c != '\t'

/-- Whether the character may not stand in a text of several lines. -/
def isIllegalInLines (c : Char) : Bool := isIllegal c && c != '\n'

def isHexDigit (c : Char) : Bool := c.isDigit || 'a' ≤ c && c ≤ 'f' || 'A' ≤ c && c ≤ 'F'

/-- The value of a digit in a base up to sixteen. -/
def digitValue (c : Char) : Nat :=
  if c.isDigit then c.toNat - '0'.toNat else c.toLower.toNat - 'a'.toNat + 10

/-- The value of a numeral. -/
def numeral (base : Nat) (digits : List Char) : Nat :=
  digits.foldl (fun value c => value * base + digitValue c) 0

/-! ### Strings -/

/-- The text up to a terminator, which is skipped. -/
def textUntil (terminator : List Char) : List Char → Option (List Char × List Char)
  | [] => none
  | c :: rest =>
    if terminator.isPrefixOf (c :: rest) then some ([], (c :: rest).drop terminator.length)
    else (textUntil terminator rest).map fun (text, rest) => (c :: text, rest)

/-- A text without escapes, up to a terminator. -/
def literalText (terminator : List Char) (illegal : Char → Bool) (text : List Char) :
    Except Fault (List Char × List Char) :=
  match textUntil terminator text with
  | none => .error ⟨.expectedText (String.ofList terminator), []⟩
  | some (read, rest) =>
    match read.find? illegal with
    | some c => .error ⟨.invalidCharacter c, text.dropWhile (!illegal ·)⟩
    | none => .ok (read, rest)

/-- A code point by the given number of hexadecimal digits. -/
def codePoint (count : Nat) (text : List Char) : Except Fault (List Char × List Char) :=
  let digits := text.take count
  if digits.length < count || !digits.all isHexDigit then .error ⟨.invalidHexadecimal, text⟩
  else
    let value := numeral 16 digits
    let rest := text.drop count
    if value < 0xD800 || 0xDFFF < value && value ≤ 0x10FFFF then .ok ([Char.ofNat value], rest)
    else .error ⟨.invalidCodePoint, rest⟩

/-- The character that an escaped letter stands for. -/
def escapedChar? : Char → Option Char
  | 'b' => some '\x08'
  | 't' => some '\t'
  | 'n' => some '\n'
  | 'f' => some '\x0c'
  | 'r' => some '\r'
  | '"' => some '"'
  | '\\' => some '\\'
  | _ => none

/-- A line end after a backslash, with all white space after it, stands for nothing. -/
def continuedLine (text : List Char) : Except Fault (List Char × List Char) :=
  match text.dropWhile isBlank with
  | [] => .ok ([], [])
  | c :: rest => if c = '\n' then .ok ([], rest.dropWhile isBlankOrNewline) else .error ⟨.strayBackslash, c :: rest⟩

/-- What an escape stands for. -/
def escape (multiline : Bool) : List Char → Except Fault (List Char × List Char)
  | [] => .error ⟨.unterminatedString, []⟩
  | c :: rest =>
    if multiline && isBlankOrNewline c then continuedLine (c :: rest)
    else if c = 'u' then codePoint 4 rest
    else if c = 'U' then codePoint 8 rest
    else match escapedChar? c with
      | some escaped => .ok ([escaped], rest)
      | none => .error ⟨.strayBackslash, rest⟩

/-- A text with escapes, up to its closing marks.  Every step takes a character, so the length of the text is enough
fuel. -/
def basicText (multiline : Bool) : Nat → List Char → Except Fault (List Char × List Char)
  | 0, text => .error ⟨.unterminatedString, text⟩
  | _, [] => .error ⟨.unterminatedString, []⟩
  | fuel + 1, c :: rest =>
    let closing := if multiline then ['"', '"', '"'] else ['"']
    if closing.isPrefixOf (c :: rest) then .ok ([], (c :: rest).drop closing.length)
    else if c = '\\' then do
      let (escaped, rest) ← escape multiline rest
      let (text, rest) ← basicText multiline fuel rest
      return (escaped ++ text, rest)
    else if (if multiline then isIllegalInLines c else isIllegal c) then .error ⟨.illegalCharacter c, c :: rest⟩
    else do
      let (text, rest) ← basicText multiline fuel rest
      return (c :: text, rest)

/-- A string of one line, after its opening mark. -/
def lineString (mark : Char) (text : List Char) : Except Fault (String × List Char) := do
  let (read, rest) ← if mark = '"' then basicText false (text.length + 1) text
    else literalText ['\x27'] isIllegal text
  return (String.ofList read, rest)

/-- A string of several lines, after its opening marks.  A newline at its start does not count, and up to two marks
before the closing ones do. -/
def linesString (mark : Char) (text : List Char) : Except Fault (String × List Char) := do
  let text := if text.head? = some '\n' then text.tail else text
  let (read, rest) ← if mark = '"' then basicText true (text.length + 1) text
    else literalText ['\x27', '\x27', '\x27'] isIllegalInLines text
  let marks := (rest.take 2).takeWhile (· == mark)
  return (String.ofList (read ++ marks), rest.drop marks.length)

/-! ### Numbers -/

/-- Digits, with single underscores between them. -/
def digitsAndRest (holds : Char → Bool) : List Char → List Char × List Char
  | [] => ([], [])
  | c :: text =>
    if holds c then
      let (digits, rest) := match text with
        | '_' :: next :: text => if holds next then digitsAndRest holds (next :: text) else ([], '_' :: next :: text)
        | text => digitsAndRest holds text
      (c :: digits, rest)
    else ([], c :: text)

/-- An integer in another base than ten, after its leading zero. -/
def prefixedInteger? : List Char → Option (Value × List Char)
  | 'x' :: text => withDigits isHexDigit 16 text
  | 'b' :: text => withDigits (fun c => c == '0' || c == '1') 2 text
  | 'o' :: text => withDigits (fun c => '0' ≤ c && c ≤ '7') 8 text
  | _ => none
where
  withDigits (holds : Char → Bool) (base : Nat) (text : List Char) : Option (Value × List Char) :=
    match digitsAndRest holds text with
    | ([], _) => none
    | (digits, rest) => some (.integer (numeral base digits), rest)

/-- A sign, if there is one. -/
def signAndRest : List Char → Bool × List Char
  | '-' :: text => (true, text)
  | '+' :: text => (false, text)
  | text => (false, text)

/-- The digits of a fraction, if there is one. -/
def fractionAndRest (text : List Char) : List Char × List Char :=
  match text with
  | '.' :: after =>
    match digitsAndRest Char.isDigit after with
    | ([], _) => ([], text)
    | found => found
  | _ => ([], text)

/-- An exponent, if there is one. -/
def exponentAndRest (text : List Char) : Option Int × List Char :=
  match text with
  | e :: after =>
    if e = 'e' ∨ e = 'E' then
      let (negative, after) := signAndRest after
      match digitsAndRest Char.isDigit after with
      | ([], _) => (none, text)
      | (digits, rest) =>
        let exponent : Int := numeral 10 digits
        (some (if negative then -exponent else exponent), rest)
    else (none, text)
  | [] => (none, text)

/-- The exponent from which on a decimal is too large or too small for a floating point number. -/
def exponentLimit : Int := 400

/-- The floating point number nearest to a decimal. -/
def floatOf (negative : Bool) (digits : List Char) (exponent : Int) : Float :=
  let digits := digits.dropWhile (· == '0')
  let magnitude := exponent + digits.length
  let zero : Float := if negative then -0.0 else 0.0
  let infinity : Float := if negative then -1.0 / 0.0 else 1.0 / 0.0
  if digits.isEmpty || magnitude < -exponentLimit then zero
  else if exponentLimit < magnitude then infinity
  else
    let n := numeral 10 digits
    (Number.nearest? negative (n * Number.tenTo exponent.toNat) (Number.tenTo (-exponent).toNat)).getD infinity

/-- The digits of an integer in base ten: a zero alone, or digits that do not begin with one. -/
def wholeDigits? (text : List Char) : Option (List Char × List Char) :=
  match text with
  | '0' :: rest => some (['0'], rest)
  | _ => match digitsAndRest Char.isDigit text with
    | ([], _) => none
    | found => some found

/-- A number in base ten. -/
def decimalNumber? (text : List Char) : Option (Except Fault (Value × List Char)) := do
  let (negative, unsigned) := signAndRest text
  let (whole, rest) ← wholeDigits? unsigned
  let (fraction, afterFraction) := fractionAndRest rest
  let (exponent?, afterExponent) := exponentAndRest afterFraction
  if fraction.isEmpty && exponent?.isNone then
    if whole.length > digitLimit then return .error ⟨.integerTooLong whole.length, text⟩
    let n : Int := numeral 10 whole
    return .ok (.integer (if negative then -n else n), rest)
  else
    let exponent := exponent?.getD 0 - fraction.length
    return .ok (.float (floatOf negative (whole ++ fraction) exponent), afterExponent)

/-- A number. -/
def number? (text : List Char) : Option (Except Fault (Value × List Char)) :=
  match text with
  | '0' :: rest =>
    match prefixedInteger? rest with
    | some found => some (.ok found)
    | none => decimalNumber? text
  | _ => decimalNumber? text

/-- Infinity, or no number. -/
def special? (text : List Char) : Option (Value × List Char) :=
  let (negative, unsigned) := signAndRest text
  if "inf".toList.isPrefixOf unsigned then
    some (.float (if negative then -1.0 / 0.0 else 1.0 / 0.0), unsigned.drop 3)
  else if "nan".toList.isPrefixOf unsigned then some (.float (0.0 / 0.0), unsigned.drop 3)
  else none

/-! ### Moments -/

/-- Two digits that make a number within bounds. -/
def twoDigits? (low high : Nat) : List Char → Option (Nat × List Char)
  | a :: b :: rest =>
    if a.isDigit && b.isDigit && low ≤ numeral 10 [a, b] && numeral 10 [a, b] ≤ high then
      some (numeral 10 [a, b], rest)
    else none
  | _ => none

/-- The rest of a text after a character. -/
def after? (c : Char) : List Char → Option (List Char)
  | [] => none
  | first :: rest => if first = c then some rest else none

/-- Year, month and day. -/
def date? (text : List Char) : Option (List Nat × List Char) := do
  let digits := text.take 4
  if digits.length < 4 || !digits.all Char.isDigit then none
  let (month, rest) ← twoDigits? 1 12 (← after? '-' (text.drop 4))
  let (day, rest) ← twoDigits? 1 31 (← after? '-' rest)
  return ([numeral 10 digits, month, day], rest)

/-- The microseconds of a fraction of a second. -/
def microseconds (text : List Char) : Nat × List Char :=
  match text with
  | '.' :: after =>
    let digits := after.takeWhile Char.isDigit
    if digits.isEmpty then (0, text)
    else (numeral 10 ((digits.take 6).rightpad 6 '0'), after.drop digits.length)
  | _ => (0, text)

/-- Hour, minute, second and microsecond. -/
def time? (text : List Char) : Option (List Nat × List Char) := do
  let (hour, rest) ← twoDigits? 0 23 text
  let (minute, rest) ← twoDigits? 0 59 (← after? ':' rest)
  let (second, rest) ← twoDigits? 0 59 (← after? ':' rest)
  let (fraction, rest) := microseconds rest
  return ([hour, minute, second, fraction], rest)

/-- The offset of a time in minutes. -/
def offset? (text : List Char) : Option (Int × List Char) :=
  match text with
  | 'Z' :: rest => some (0, rest)
  | 'z' :: rest => some (0, rest)
  | sign :: after => do
    if sign ≠ '+' ∧ sign ≠ '-' then none
    let (hours, rest) ← twoDigits? 0 23 after
    let (minutes, rest) ← twoDigits? 0 59 (← after? ':' rest)
    let offset : Int := hours * 60 + minutes
    return (if sign = '-' then -offset else offset, rest)
  | [] => none

/-- The number of days of a month. -/
def daysOf (year month : Nat) : Nat :=
  if month = 2 then if year % 4 = 0 ∧ (year % 100 ≠ 0 ∨ year % 400 = 0) then 29 else 28
  else if [4, 6, 9, 11].contains month then 30
  else 31

/-- Whether there is such a day. -/
def isDay : List Nat → Bool
  | [year, month, day] => 0 < year && day ≤ daysOf year month
  | _ => false

/-- The fields of a time that are shown: hours and minutes, and the others up to the last that is not zero. -/
def shownTime (fields : List Nat) : List Nat :=
  fields.take 2 ++ ((fields.drop 2).reverse.dropWhile (· == 0)).reverse

/-- The zone of a time with an offset. -/
def shownZone (offset : Int) : String :=
  if offset = 0 then "datetime.timezone.utc"
  else if offset > 0 then "datetime.timezone(datetime.timedelta(seconds=" ++ toString (offset * 60) ++ "))"
  else "datetime.timezone(datetime.timedelta(days=-1, seconds=" ++ toString (86400 + offset * 60) ++ "))"

/-- A moment by its type and its fields. -/
def momentOf (type : String) (fields : List String) : Value :=
  .moment type (type ++ "(" ++ ", ".intercalate fields ++ ")")

/-- A date, with a time if there is one. -/
def dateAndTime? (text : List Char) : Option (Except Fault (Value × List Char)) := do
  let (date, afterDate) ← date? text
  let timed := match afterDate with
    | c :: rest => if c = 'T' ∨ c = 't' ∨ c = ' ' then time? rest else none
    | [] => none
  if !isDay date then return .error ⟨.invalidMoment, text⟩
  match timed with
  | none => return .ok (momentOf "datetime.date" (date.map toString), afterDate)
  | some (time, afterTime) =>
    let fields := (date ++ shownTime time).map toString
    match offset? afterTime with
    | none => return .ok (momentOf "datetime.datetime" fields, afterTime)
    | some (offset, rest) =>
      return .ok (momentOf "datetime.datetime" (fields ++ ["tzinfo=" ++ shownZone offset]), rest)

/-- A moment. -/
def moment? (text : List Char) : Option (Except Fault (Value × List Char)) :=
  match dateAndTime? text with
  | some read => some read
  | none => (time? text).map fun (time, rest) =>
      .ok (momentOf "datetime.time" ((shownTime time).map toString), rest)

end Precedence.Toml
