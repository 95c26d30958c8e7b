import GestureCalculator.Text.Numeral

/-!
Binary64 numbers as exact values. Every finite one is a whole number of steps of `2 ^ -1074`, so its size
is a natural number, and rounding a quotient of natural numbers gives every operation that the hardware
does not offer: remainders, whole parts, conversions from and to whole numbers.
-/
namespace GestureCalculator.Binary64
open Text

def twoTo (n : Nat) : Nat := Nat.pow 2 n

/-- The biased exponent. -/
def exponentField (x : Float) : Nat := x.toBits.toNat / twoTo 52 % twoTo 11

/-- The bits below the exponent. -/
def fractionField (x : Float) : Nat := x.toBits.toNat % twoTo 52

/-- The sign bit, which zero has too. -/
def isNegative (x : Float) : Bool := decide (twoTo 63 ≤ x.toBits.toNat)

/-- The number of steps in one. -/
def unit : Nat := twoTo 1074

/-- The size of a finite number, in steps. -/
def steps (x : Float) : Nat :=
  if exponentField x = 0 then fractionField x
  else (twoTo 52 + fractionField x) * twoTo (exponentField x - 1)

/-- The quotient rounded to a whole number, a half to the even neighbour. -/
def roundHalfEven (num den : Nat) : Nat :=
  let quotient := num / den
  let rest := num % den
  if 2 * rest < den then quotient
  else if den < 2 * rest then quotient + 1
  else quotient + quotient % 2

/-- The bits of infinity, beyond those of every finite number. -/
def infinityBits : Nat := 2047 * twoTo 52

/-- The bits of the number nearest to `num / den` steps. A size of 54 bits or more is rounded to 53,
    and the exponent field counts the bits that were dropped. -/
def bitsOfSteps (num den : Nat) : Nat :=
  let dropped := (num / den).log2 - 52
  min (dropped * twoTo 52 + roundHalfEven num (den * twoTo dropped)) infinityBits

/-- The number nearest to `num / den` steps, with the given sign. -/
def ofSteps (negative : Bool) (num den : Nat) : Float :=
  Float.ofBits (UInt64.ofNat (bitsOfSteps num den + if negative then twoTo 63 else 0))

/-- The number nearest to a quotient, with the given sign. -/
def ofRatio (negative : Bool) (num den : Nat) : Float := ofSteps negative (num * unit) den

def ofInt (n : Int) : Float := ofRatio (decide (n < 0)) n.natAbs 1

/-- A finite number without a fraction. -/
def isWhole (x : Float) : Bool := x.isFinite && steps x % unit == 0

/-- The whole part of a finite number, toward zero. -/
def wholePart (x : Float) : Int := signed (isNegative x) (steps x / unit)

/-- The whole part kept between two bounds; nothing is a whole part of a number that is none. -/
def wholePartWithin (low high : Int) (x : Float) : Int :=
  if x.isNaN then 0 else max low (min high (wholePart x))

def truncate (x : Float) : Float :=
  if x.isNaN then x else ofSteps (isNegative x) (steps x / unit * unit) 1

/-- The greatest whole number that is not above the number. -/
def floor (x : Float) : Float :=
  if isNegative x then ofSteps true ((steps x + (unit - 1)) / unit * unit) 1
  else ofSteps false (steps x / unit * unit) 1

/-- What is left of the dividend after the divisor was taken off as often as it fits, with the sign of
    the dividend; always exact. -/
def remainder (dividend divisor : Float) : Float :=
  ofSteps (isNegative dividend) (steps dividend % steps divisor) 1

/-- Zero with the sign of the given number. -/
def zeroLike (x : Float) : Float := ofSteps (isNegative x) 0 1

/-- The greater of two numbers; one that is no number counts for nothing. -/
def greater (x y : Float) : Float := if x.isNaN then y else if x < y then y else x

/-- The whole square root, rounded down. -/
def squareRoot (n : Nat) : Nat :=
  if small : n = 0 then 0
  else
    let root := 2 * squareRoot (n / 4)
    if (root + 1) * (root + 1) ≤ n then root + 1 else root
termination_by n
decreasing_by omega

/-- The number nearest to the square root of a whole number: 64 binary places of the root, and one more
    that tells whether anything follows them. -/
def ofSquareRoot (n : Nat) : Float :=
  let root := squareRoot (n * twoTo 128)
  ofRatio false (2 * root + if root * root = n * twoTo 128 then 0 else 1) (twoTo 65)

end GestureCalculator.Binary64
