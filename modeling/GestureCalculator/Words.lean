/-!
Whole numbers of 32 bits, which counts, sizes and pixel coordinates are, and what becomes of results that have more.
-/
namespace GestureCalculator

/-- The least whole number of 32 bits with a sign. -/
def leastPixel : Int := -0x80000000

/-- The greatest whole number of 32 bits with a sign. -/
def greatestPixel : Int := 0x7FFFFFFF

/-- A whole number of 32 bits with a sign. -/
def isPixel (n : Int) : Bool := decide (leastPixel ≤ n ∧ n ≤ greatestPixel)

/-- The greatest whole number of 32 bits without a sign. -/
def greatestCount : Nat := 0xFFFFFFFF

/-- A whole number as one of 32 bits without a sign, if it is one. -/
def countOf? (n : Int) : Option UInt32 :=
  if 0 ≤ n ∧ n ≤ greatestCount then some (UInt32.ofNat n.toNat) else none

/-- What a program does where a result does not fit into its bits. -/
inductive Overflow where
  /-- It stops. -/
  | stops
  /-- It goes on with the bits that fit. -/
  | wraps
deriving DecidableEq, Repr

namespace Overflow

/-- The result of a step of a computation in 32 bits with a sign, if the program goes on. -/
def pixel? (overflow : Overflow) (n : Int) : Option Int :=
  match overflow with
  | stops => if isPixel n then some n else none
  | wraps => some (n.bmod 0x100000000)

/-- The count that follows a count of 64 bits, if the program goes on. -/
def next? (overflow : Overflow) (count : UInt64) : Option UInt64 :=
  match overflow with
  | stops => if count + 1 = 0 then none else some (count + 1)
  | wraps => some (count + 1)

end Overflow
end GestureCalculator
