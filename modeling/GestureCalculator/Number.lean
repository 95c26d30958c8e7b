import GestureCalculator.Binary64.Decimal

/-!
The numbers that expressions have as values: whole numbers of 128 bits, which stay exact, and binary64
numbers.
-/
namespace GestureCalculator
open Binary64

/-- A result of the calculator. -/
inductive Number where
  | integer (value : Int)
  | decimal (value : Float)
deriving DecidableEq, Repr

namespace Number

/-- Whole numbers reach from here up to one below its opposite. -/
def leastInteger : Int := -0x80000000000000000000000000000000

/-- A whole number that is kept exactly. -/
def inRange (n : Int) : Bool := decide (leastInteger ≤ n ∧ n < -leastInteger)

/-- The value as a binary64 number, the nearest one if it is not one itself. -/
def toFloat : Number → Float
  | integer n => ofInt n
  | decimal x => x

/-- The value without an exponent: all digits of a whole number, the fewest that read back of any other. -/
def text : Number → String
  | integer n => toString n
  | decimal x => plainText x

end Number
end GestureCalculator
