import GestureCalculator.Binary64.Exact
import GestureCalculator.Words

/-!
What a program runs on, as far as its results depend on it.
-/
namespace GestureCalculator

/-- How numbers are computed where there is more than one way. -/
structure Machine where
  overflow : Overflow
  /-- The length of the hypotenuse over two legs. Nothing is said about its rounding. -/
  hypotenuse : Int → Int → Float

/-- The machine that rounds a hypotenuse to the nearest number. -/
def Machine.nearest (overflow : Overflow) : Machine where
  overflow
  hypotenuse width height :=
    Binary64.ofSquareRoot (width.natAbs * width.natAbs + height.natAbs * height.natAbs)

end GestureCalculator
