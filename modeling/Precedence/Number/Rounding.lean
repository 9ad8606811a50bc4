import Precedence.Number.Power

/-!
# Rounding to binary floating point

The finite numbers of the 64-bit format are `m * 2 ^ e` with `m < 2 ^ 53` and `-1074 ≤ e ≤ 971`, and their bits, read as
a number, grow with the value.  `nearestBits` rounds a quotient of natural numbers to the nearest of them, a tie to the
even neighbour, as if there were no greatest exponent; so a quotient that is too large is seen by its bits.
-/

namespace Precedence.Number

/-- A quotient rounded to the nearest natural number, a tie to the even one. -/
def roundHalfEven (num den : Nat) : Nat :=
  let quotient := num / den
  let twice := 2 * (num % den)
  if twice < den ∨ twice = den ∧ quotient % 2 = 0 then quotient else quotient + 1

/-- A quotient divided by a power of two, rounded. -/
def roundScaled (num den : Nat) (exponent : Int) : Nat :=
  if exponent < 0 then roundHalfEven (num * twoTo (-exponent).toNat) den
  else roundHalfEven num (den * twoTo exponent.toNat)

/-- The greatest exponent with `2 ^ exponent * den ≤ num`, for positive arguments. -/
def binaryExponent (num den : Nat) : Int :=
  let guess : Int := (num.log2 : Int) - den.log2
  let reached := if guess < 0 then den ≤ num * twoTo (-guess).toNat else den * twoTo guess.toNat ≤ num
  if reached then guess else guess - 1

/-- The least exponent of the format. -/
def leastExponent : Int := -1074

/-- The bits of the nearest number of the format. -/
def nearestBits (num den : Nat) : Nat :=
  if num = 0 then 0
  else
    let exponent := max leastExponent (binaryExponent num den - 52)
    (exponent - leastExponent).toNat * twoTo 52 + roundScaled num den exponent

/-- The bits of infinity, which exceed those of every number. -/
def infinityBits : Nat := 2047 * twoTo 52

/-- The number of the format with the given sign that is nearest to a quotient, if it is not too large. -/
def nearest? (negative : Bool) (num den : Nat) : Option Float :=
  let bits := nearestBits num den
  if bits < infinityBits then some (Float.ofBits (UInt64.ofNat (if negative then twoTo 63 + bits else bits))) else none

/-- The nearest floating point number to an integer. -/
def ofInt? (n : Int) : Option Float := nearest? (n < 0) n.natAbs 1

/-- The nearest floating point number to a quotient of integers.  Its sign is that of the divisor if the dividend is
zero. -/
def quotient? (num den : Int) : Option Float := nearest? ((num < 0) != (den < 0)) num.natAbs den.natAbs

end Precedence.Number
