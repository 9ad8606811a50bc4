import Precedence.Number.Power

/-!
# Shortest decimals

A floating point number stands for all the reals that round to it.  `shortest` finds the decimal with the fewest digits
among these, and of several such the nearest to the number.  A decimal with a given number of digits lies on a grid, and
if any point of a grid rounds to the number, so does one of the number's two neighbours on that grid.
-/

namespace Precedence.Number

/-- A positive binary number `significand * 2 ^ exponent`. -/
structure Binary where
  significand : Nat
  exponent : Int

/-- A decimal number `0.d₁d₂… * 10 ^ point`, by its digits. -/
structure Decimal where
  digits : List Char
  point : Int

/-- A positive finite number of the format, by its bits. -/
def Binary.ofBits (bits : Nat) : Binary :=
  let field : Nat := bits / twoTo 52
  if field = 0 then ⟨bits, -1074⟩ else ⟨twoTo 52 + bits % twoTo 52, (field : Int) - 1075⟩

/-- The reals that round to a number, as quotients by a common denominator: the lower end, the number itself, and the
upper end.  The ends belong to them if the significand is even. -/
structure Interval where
  lower : Nat
  number : Nat
  upper : Nat
  denominator : Nat
  closed : Bool

/-- The reals that round to a number.  Below a power of two the numbers lie twice as close. -/
def Binary.interval (x : Binary) : Interval :=
  let exponent := x.exponent - 2
  let unit := twoTo exponent.toNat
  let below := if x.significand = twoTo 52 ∧ x.exponent ≠ -1074 then 1 else 2
  { lower := (4 * x.significand - below) * unit
    number := 4 * x.significand * unit
    upper := (4 * x.significand + 2) * unit
    denominator := twoTo (-exponent).toNat
    closed := x.significand % 2 = 0 }

namespace Interval

/-- Whether the quotient rounds to the number. -/
def contains (i : Interval) (num den : Nat) : Bool :=
  if i.closed then i.lower * den ≤ num * i.denominator && num * i.denominator ≤ i.upper * den
  else i.lower * den < num * i.denominator && num * i.denominator < i.upper * den

/-- The `point` with `10 ^ (point - 1) ≤ number < 10 ^ point`. -/
def decimalPoint (i : Interval) : Int :=
  if i.denominator ≤ i.number then (Nat.toDigits 10 (i.number / i.denominator)).length
  else
    let ceiling := (i.denominator + i.number - 1) / i.number
    1 - ((Nat.toDigits 10 (ceiling - 1)).length : Int)

/-- The nearest decimal with the given number of digits that rounds to the number, by its digits read as a number and
the power of ten of its last digit. -/
def onGrid? (i : Interval) (count : Nat) : Option (Nat × Int) :=
  let scale := i.decimalPoint - count
  let up := tenTo scale.toNat
  let down := tenTo (-scale).toNat
  let below := i.number * down / (i.denominator * up)
  let above := below + 1
  let belowFits := i.contains (below * up) down
  let aboveFits := i.contains (above * up) down
  -- twice the number lies beyond the sum of its neighbours just if the upper one is nearer
  let twice := 2 * i.number * down
  let sum := (below + above) * up * i.denominator
  let aboveNearer := sum < twice || sum = twice && below % 2 = 1
  if belowFits && aboveFits then some (if aboveNearer then above else below, scale)
  else if belowFits then some (below, scale)
  else if aboveFits then some (above, scale)
  else none

end Interval

/-- The digits of a number without the zeros at its end. -/
def significantDigits (n : Nat) : List Char :=
  ((Nat.toDigits 10 n).reverse.dropWhile (· == '0')).reverse

/-- The number of digits that is always enough. -/
def enoughDigits : Nat := 17

/-- The shortest decimal that rounds to the number. -/
def Binary.shortest (x : Binary) : Decimal :=
  let i := x.interval
  match (List.range enoughDigits).findSome? fun n => i.onGrid? (n + 1) with
  | some (digits, scale) => ⟨significantDigits digits, (Nat.toDigits 10 digits).length + scale⟩
  | none => ⟨['0'], 1⟩

/-! ### Layout -/

/-- How a decimal is written. -/
structure Layout where
  /-- The least power of ten of the first digit that is written out. -/
  leastPositional : Int
  /-- The least power of ten of the first digit that is again written as an exponent. -/
  leastScientific : Int
  /-- The least number of digits of an exponent. -/
  exponentDigits : Nat

/-- Numbers from `0.0001` up to `10 ^ 16` are written out, with at least one digit behind the point; exponents have a
sign and at least two digits. -/
def Layout.standard : Layout := ⟨-4, 16, 2⟩

/-- A decimal without an exponent, with a digit on both sides of the point. -/
def Decimal.positional (d : Decimal) : List Char :=
  if d.point ≤ 0 then '0' :: '.' :: (List.replicate (-d.point).toNat '0' ++ d.digits)
  else
    let point := d.point.toNat
    let digits := d.digits ++ List.replicate (point - d.digits.length) '0'
    let fraction := digits.drop point
    digits.take point ++ '.' :: (if fraction.isEmpty then ['0'] else fraction)

/-- A decimal with an exponent. -/
def Decimal.scientific (layout : Layout) (d : Decimal) : List Char :=
  let exponent := d.point - 1
  let sign := if exponent < 0 then '-' else '+'
  let significand := match d.digits with
    | [] => ['0']
    | [digit] => [digit]
    | digit :: rest => digit :: '.' :: rest
  significand ++ 'e' :: sign :: (Nat.toDigits 10 exponent.natAbs).leftpad layout.exponentDigits '0'

/-- A decimal in the given layout. -/
def Decimal.write (layout : Layout) (d : Decimal) : List Char :=
  let power := d.point - 1
  if layout.leastPositional ≤ power && power < layout.leastScientific then d.positional else d.scientific layout

/-- The shortest text of a floating point number. -/
def shortestText (x : Float) : String :=
  let bits := x.toBits.toNat
  let magnitude := bits % twoTo 63
  let sign := if bits < twoTo 63 then "" else "-"
  if magnitude = 0 then sign ++ "0.0"
  else if magnitude < 2047 * twoTo 52 then
    sign ++ String.ofList ((Binary.ofBits magnitude).shortest.write .standard)
  else if magnitude = 2047 * twoTo 52 then sign ++ "inf"
  else "nan"

end Precedence.Number
